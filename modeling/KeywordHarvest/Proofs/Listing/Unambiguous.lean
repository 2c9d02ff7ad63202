import Mathlib.Data.List.Induction
import KeywordHarvest.Proofs.Call.Leftmost
import KeywordHarvest.Proofs.Listing.Rescan

/-! A TypeScript constant shows which name and which keywords it was written from, although nothing
in it is escaped and the name may hold anything. Read from its end, every line is an element or
the end of the declaration; and keywords that a search has found are literals that stand for
themselves. -/

namespace KeywordHarvest.Listing

namespace TypeScript

variable {name name' keyword keyword' : List Char} {keywords keywords' : List (List Char)}

/-- The characters that a single-quoted literal does not hold as they are: its quote, the start of
an escape, and the line ends. -/
def specials : List Char := ['\'', '\\', '\n', '\r', '\u2028', '\u2029']

/-- The value of a literal after its opening quote, and the text after the literal. Only literals
without escapes are read. -/
def literalRest? : List Char → Option (List Char × List Char)
  | [] => none
  | c :: text =>
      if c = '\'' then some ([], text)
      else if c ∈ specials then none
      else (literalRest? text).map fun (value, rest) => (c :: value, rest)

def literal? : List Char → Option (List Char × List Char)
  | '\'' :: text => literalRest? text
  | _ => none

theorem not_mem_specials {c : Char} (plain : Call.isKeywordChar c) : c ∉ specials := by
  have none_plain : specials.any Call.isKeywordChar = false := by decide +kernel
  exact fun special => List.any_eq_false.mp none_plain c special plain

theorem literal?_append (ordinary : ∀ c ∈ keyword, c ∉ specials) (rest : List Char) :
    literal? ('\'' :: keyword ++ '\'' :: rest) = some (keyword, rest) := by
  change literalRest? (keyword ++ '\'' :: rest) = some (keyword, rest)
  induction keyword with
  | nil => rfl
  | cons c keyword ih =>
      have head : c ∉ specials := ordinary c List.mem_cons_self
      have going : c ≠ '\'' := fun same => head (by simp [same, specials])
      have tail := ih fun d member => ordinary d (List.mem_cons_of_mem c member)
      simp [literalRest?, going, head, tail]

def line (keyword : List Char) : List Char := "  '".toList ++ keyword ++ "',".toList

def body (name : List Char) (keywords : List (List Char)) : List Char :=
  header name ++ keywords.flatMap element

theorem element_eq (keyword : List Char) :
    element keyword = ([' ', ' '] ++ '\'' :: keyword) ++ ['\'', ',', '\n'] := by
  have opening : "  '".toList = [' ', ' ', '\''] := by decide
  have closing : "',\n".toList = ['\'', ',', '\n'] := by decide
  rw [element, opening, closing]
  rfl

theorem header_eq (name : List Char) :
    header name = ("export const ".toList ++ name ++ [' ', '=', ' ']) ++ ['[', '\n'] := by
  have closing : " = [\n".toList = [' ', '=', ' ', '[', '\n'] := by decide
  unfold header
  generalize "export const ".toList = declaration
  rw [closing]
  simp only [List.append_assoc, List.cons_append, List.nil_append]

theorem body_concat (name : List Char) (keywords : List (List Char)) (keyword : List Char) :
    body name (keywords ++ [keyword]) =
      (body name keywords ++ [' ', ' ']) ++ '\'' :: keyword ++ ['\'', ',', '\n'] := by
  rw [body, body, List.flatMap_append, List.flatMap_singleton, element_eq]
  generalize header name = front
  simp only [List.append_assoc, List.cons_append, List.nil_append]

theorem eq_of_append_quote {front front' : List Char} (absent : '\'' ∉ keyword)
    (absent' : '\'' ∉ keyword') (same : front ++ '\'' :: keyword = front' ++ '\'' :: keyword') :
    front = front' ∧ keyword = keyword' := by
  rcases List.append_eq_append_iff.mp same with ⟨between, rfl, ending⟩ | ⟨between, rfl, ending⟩
  · cases between with
    | nil => simpa using ending
    | cons c between =>
        obtain ⟨rfl, rfl⟩ := List.cons.inj ending
        simp at absent
  · cases between with
    | nil => simpa [eq_comm] using ending
    | cons c between =>
        obtain ⟨rfl, rfl⟩ := List.cons.inj ending
        simp at absent'

theorem body_nil_ne_concat : body name [] ≠ body name' (keywords ++ [keyword]) := by
  intro same
  have shorter : ['\'', ',', '\n'] = ['\''] ++ [',', '\n'] := rfl
  rw [body_concat, shorter, ← List.append_assoc, body, List.flatMap_nil, List.append_nil,
    header_eq] at same
  have ending := (List.append_inj' same rfl).2
  cases ending

theorem body_inj (plain : ∀ keyword ∈ keywords, '\'' ∉ keyword)
    (plain' : ∀ keyword ∈ keywords', '\'' ∉ keyword)
    (same : body name keywords = body name' keywords') : keywords = keywords' ∧ name = name' := by
  induction keywords using List.reverseRecOn generalizing keywords' with
  | nil =>
      cases keywords' using List.reverseRecOn with
      | nil =>
          have same : header name = header name' := by simpa [body] using same
          have front := List.append_cancel_right same
          exact ⟨rfl, List.append_cancel_left front⟩
      | append_singleton keywords' keyword' => exact absurd same body_nil_ne_concat
  | append_singleton keywords keyword ih =>
      cases keywords' using List.reverseRecOn with
      | nil => exact absurd same.symm body_nil_ne_concat
      | append_singleton keywords' keyword' =>
          rw [body_concat, body_concat] at same
          obtain ⟨front, rfl⟩ := eq_of_append_quote (plain keyword (by simp))
            (plain' keyword' (by simp)) (List.append_cancel_right same)
          obtain ⟨rfl, rfl⟩ := ih (fun other member => plain other (by simp [member]))
            (fun other member => plain' other (by simp [member])) (List.append_cancel_right front)
          exact ⟨rfl, rfl⟩

theorem element_eq_line (keyword : List Char) : element keyword = line keyword ++ ['\n'] := by
  have closing : "',\n".toList = "',".toList ++ ['\n'] := by decide
  rw [element, line, closing]
  generalize "  '".toList = opening
  simp only [List.append_assoc]

theorem not_mem_line (absent : '\n' ∉ keyword) : '\n' ∉ line keyword := by
  have opening : '\n' ∉ "  '".toList := by decide
  have closing : '\n' ∉ "',".toList := by decide
  simp only [line, List.mem_append, not_or]
  exact ⟨⟨opening, absent⟩, closing⟩

theorem splitOn_elements (absent : ∀ keyword ∈ keywords, '\n' ∉ keyword) :
    (keywords.flatMap element ++ [']', '\n']).splitOn '\n' =
      keywords.map line ++ [[']'], []] := by
  induction keywords with
  | nil => decide
  | cons keyword keywords ih =>
      have head := not_mem_line (absent keyword List.mem_cons_self)
      have tail := ih fun other member => absent other (List.mem_cons_of_mem keyword member)
      rw [List.flatMap_cons, element_eq_line, List.append_assoc, List.append_assoc,
        List.singleton_append, List.splitOn_append_cons_self_of_not_mem head, tail]
      rfl

/-- The lines of the declaration, of which there are more when the name has line ends, then a line
for each keyword, and the closing bracket with its line end. -/
theorem splitOn_write (absent : ∀ keyword ∈ keywords, '\n' ∉ keyword) (name : List Char) :
    (write name keywords).splitOn '\n' =
      ("export const ".toList ++ name ++ " = [".toList).splitOn '\n' ++
        (keywords.map line ++ [[']'], []]) := by
  have closing : "]\n".toList = [']', '\n'] := by decide
  have opening : " = [\n".toList = " = [".toList ++ ['\n'] := by decide
  have parts : write name keywords = ("export const ".toList ++ name ++ " = [".toList) ++
      '\n' :: (keywords.flatMap element ++ [']', '\n']) := by
    unfold write header
    generalize "export const ".toList = declaration
    rw [opening, closing]
    generalize " = [".toList = bracket
    simp only [List.append_assoc, List.cons_append, List.nil_append]
  rw [parts, List.splitOn_append_cons_self, splitOn_elements absent]

end TypeScript

open TypeScript (specials literal? line)

theorem plain_of_extract {marker text : String} {found : List String}
    (extracted : extract marker text = .ok found) : Plain (found.map String.toList) := by
  obtain ⟨accepted, _, rfl⟩ := Call.extract_eq_ok.mp extracted
  rw [toList_keywords]
  exact plain_keywords _ _

theorem not_mem_of_plain_of_special {keywords : List (List Char)} (plain : Plain keywords)
    {c : Char} (special : c ∈ specials) : ∀ keyword ∈ keywords, c ∉ keyword :=
  fun keyword member inside => TypeScript.not_mem_specials (plain keyword member c inside) special

theorem typeScript_unambiguous :
    (∀ {name name' : String} {keywords keywords' : List String},
      Plain (keywords.map String.toList) → Plain (keywords'.map String.toList) →
      (⟨.typeScript, name⟩ : Listing).write keywords =
        (⟨.typeScript, name'⟩ : Listing).write keywords' → keywords = keywords' ∧ name = name') ∧
    ∀ {marker text : String} {keywords : List String} (name : String),
      extract marker text = .ok keywords →
      Plain (keywords.map String.toList) ∧
      ((⟨.typeScript, name⟩ : Listing).write keywords).toList.splitOn '\n' =
        ("export const " ++ name ++ " = [").toList.splitOn '\n' ++
          (keywords.map (fun keyword => ("  '" ++ keyword ++ "',").toList) ++ [[']'], []]) ∧
      ∀ keyword ∈ keywords, (∀ c ∈ keyword.toList, c ∉ specials) ∧
        literal? ("'" ++ keyword ++ "',").toList = some (keyword.toList, [',']) := by
  constructor
  · intro name name' keywords keywords' plain plain' same
    have chars := congrArg String.toList same
    rw [toList_write, toList_write] at chars
    have quote : '\'' ∈ specials := by decide
    obtain ⟨listed, named⟩ := TypeScript.body_inj (not_mem_of_plain_of_special plain quote)
      (not_mem_of_plain_of_special plain' quote) (List.append_cancel_right chars)
    have listed := (List.map_inj_right fun _ _ => String.toList_inj.mp).mp listed
    exact ⟨listed, String.toList_inj.mp named⟩
  · intro marker text keywords name extracted
    have plain := plain_of_extract extracted
    have lineEnd : '\n' ∈ specials := by decide
    refine ⟨plain, ?_, fun keyword member => ?_⟩
    · have lines := TypeScript.splitOn_write (not_mem_of_plain_of_special plain lineEnd) name.toList
      rw [toList_write]
      simpa [Listing.chars, line, Function.comp_def] using lines
    · have ordinary : ∀ c ∈ keyword.toList, c ∉ specials := fun c inside =>
        TypeScript.not_mem_specials (plain _ (List.mem_map_of_mem member) c inside)
      refine ⟨ordinary, ?_⟩
      simpa using TypeScript.literal?_append ordinary [',']

/-- A name that looks like a whole constant with the beginning of another. -/
def imitation : String := "A = [\n  'b',\n]\nexport const B"

theorem typeScript_unambiguous_imitation :
    extract "kw" "kw(\"b\") kw(\"b\")" = .ok ["b", "b"] ∧
      ((⟨.typeScript, imitation⟩ : Listing).write ["b", "b"]).toList.splitOn '\n' =
        ["export const A = [", "  'b',", "]", "export const B = [", "  'b',", "  'b',", "]",
          ""].map String.toList ∧
      (⟨.typeScript, imitation⟩ : Listing).write ["b", "b"] ≠
        (⟨.typeScript, "A"⟩ : Listing).write ["b", "b", "b"] := by
  have found : Marker.standard.keywords "kw(\"b\") kw(\"b\")" = ["b", "b"] := by decide +kernel
  have extracted : extract "kw" "kw(\"b\") kw(\"b\")" = .ok ["b", "b"] :=
    Call.extract_eq_ok.mpr ⟨_, Marker.ofText_text Marker.standard, found.symm⟩
  obtain ⟨plain, lines, _⟩ := typeScript_unambiguous.2 imitation extracted
  have plain' : Plain (["b", "b", "b"].map String.toList) := by
    intro keyword member
    exact plain keyword (by simpa using member)
  refine ⟨extracted, lines.trans (by decide), fun same => ?_⟩
  cases (typeScript_unambiguous.1 plain plain' same).1

end KeywordHarvest.Listing
