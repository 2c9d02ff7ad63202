import KeywordHarvest.Toml.Document
import KeywordHarvest.Proofs.Toml.BasicString

/-! Documents of plain lines: a bare key with a quoted text on each, and blank lines and comments
anywhere between them. Such a document is read as its keys with their texts, in its order. -/

namespace KeywordHarvest.Toml

variable {key : String} {text written rest ending gap cs : List Char}
  {entries : List (String × String)}

inductive LineEnd : List Char → Prop
  | feed : LineEnd ['\n']
  | returnFeed : LineEnd ['\r', '\n']

def IsCommentChar (c : Char) : Prop :=
  c.toNat = 0x09 ∨ 0x20 ≤ c.toNat ∧ c.toNat ≤ 0x7E ∨ 0x80 ≤ c.toNat

instance (c : Char) : Decidable (IsCommentChar c) := inferInstanceAs (Decidable (_ ∨ _))

/-- A line without a key: blanks, and maybe a comment after them. -/
inductive Gap : List Char → Prop
  | blank {blanks : List Char} (only : ∀ c ∈ blanks, c ∈ [' ', '\t']) : Gap blanks
  | comment {blanks text : List Char} (only : ∀ c ∈ blanks, c ∈ [' ', '\t'])
      (legal : ∀ c ∈ text, IsCommentChar c) : Gap (blanks ++ '#' :: text)

def IsBareKey (key : String) : Prop := key ≠ "" ∧ ∀ c ∈ key.toList, isBareChar c

/-- The keys of a document with their texts, and how the document can be written. -/
inductive Lines : List (String × String) → List Char → Prop
  | nil : Lines [] []
  | gap {entries : List (String × String)} {line ending rest : List Char} (gap : Gap line)
      (ends : LineEnd ending) (more : Lines entries rest) :
      Lines entries (line ++ (ending ++ rest))
  | entry {key value : String} {entries : List (String × String)} {written ending rest : List Char}
      (bare : IsBareKey key) (writes : Written value.toList written) (ends : LineEnd ending)
      (more : Lines entries rest) :
      Lines ((key, value) :: entries)
        (key.toList ++ (" = \"".toList ++ (written ++ '"' :: (ending ++ rest))))

theorem afterBlanks_append {blanks : List Char} (only : ∀ c ∈ blanks, c ∈ [' ', '\t'])
    (cs : List Char) : afterBlanks (blanks ++ cs) = afterBlanks cs := by
  refine List.dropWhile_append_of_pos fun c member => ?_
  simpa [isBlank] using only c member

theorem afterBlanks_cons {c : Char} (mark : isBlank c = false) (cs : List Char) :
    afterBlanks (c :: cs) = c :: cs :=
  List.dropWhile_cons_of_neg (by simp [mark])

theorem isTextChar_of_isCommentChar {c : Char} (legal : IsCommentChar c) :
    isTextChar c = true := by
  unfold IsCommentChar at legal
  exact isTextChar_iff.mpr (by omega)

theorem afterLine?_ending (ends : LineEnd ending) (rest : List Char) :
    afterLine? (ending ++ rest) = some rest := by
  cases ends <;> rfl

theorem afterLine?_comment {comment : List Char} (legal : ∀ c ∈ comment, IsCommentChar c)
    (ends : LineEnd ending) (rest : List Char) :
    afterLine? ('#' :: (comment ++ (ending ++ rest))) = some rest := by
  have mark : isBlank '#' = false := by decide
  have passed : (comment ++ (ending ++ rest)).dropWhile isTextChar =
      (ending ++ rest).dropWhile isTextChar :=
    List.dropWhile_append_of_pos fun c member => isTextChar_of_isCommentChar (legal c member)
  simp only [afterLine?, afterBlanks_cons mark, passed]
  cases ends <;> rfl

theorem Gap.after (gap : Gap cs) (ends : LineEnd ending) (rest : List Char) :
    ∃ c start, afterBlanks (cs ++ (ending ++ rest)) = c :: start ∧
      startsBlankLine (c :: start) = true ∧ afterLine? (c :: start) = some rest := by
  cases gap with
  | blank only =>
      rw [afterBlanks_append only]
      cases ends with
      | feed => exact ⟨_, _, rfl, rfl, rfl⟩
      | returnFeed => exact ⟨_, _, rfl, rfl, rfl⟩
  | comment only legal =>
      rw [List.append_assoc, afterBlanks_append only]
      exact ⟨_, _, rfl, rfl, afterLine?_comment legal ends rest⟩

example : afterLine? " \t# note\r\nkey".toList = some "key".toList := by decide

theorem IsBareKey.start (bare : IsBareKey key) :
    ∃ c others, key.toList = c :: others ∧ isBareChar c = true := by
  cases chars : key.toList with
  | nil => exact absurd (String.toList_eq_nil_iff.mp chars) bare.1
  | cons c others =>
      exact ⟨c, others, rfl, bare.2 c (chars ▸ List.mem_cons_self)⟩

theorem ne_of_isBareChar {c mark : Char} (bare : isBareChar c = true)
    (apart : isBareChar mark = false) : c ≠ mark := by
  rintro rfl
  cases bare.symm.trans apart

theorem keyPart?_bare (bare : IsBareKey key) {c : Char} (ends : isBareChar c = false)
    (cs : List Char) : keyPart? (key.toList ++ c :: cs) = some (key, c :: cs) := by
  obtain ⟨first, others, chars, starts⟩ := bare.start
  have all : ∀ d ∈ others, isBareChar d = true := by
    intro d member
    exact bare.2 d (chars ▸ List.mem_cons_of_mem first member)
  have quote : first ≠ '"' := ne_of_isBareChar starts (by decide)
  have apostrophe : first ≠ '\'' := ne_of_isBareChar starts (by decide)
  have taken : (others ++ c :: cs).takeWhile isBareChar = others := by
    rw [List.takeWhile_append_of_pos all]
    simp [ends]
  have left : (others ++ c :: cs).dropWhile isBareChar = c :: cs := by
    rw [List.dropWhile_append_of_pos all]
    simp [ends]
  have whole : String.ofList (first :: others) = key := by rw [← chars, String.ofList_toList]
  rw [chars, List.cons_append]
  simpa [keyPart?, starts, taken, left] using whole

theorem key?_bare (bare : IsBareKey key) (cs : List Char) :
    key? (key.toList ++ ' ' :: '=' :: cs) = some (⟨[], key⟩, '=' :: cs) := by
  obtain ⟨first, others, chars, starts⟩ := bare.start
  have unblank : afterBlanks (key.toList ++ ' ' :: '=' :: cs) = key.toList ++ ' ' :: '=' :: cs := by
    have space : first ≠ ' ' := ne_of_isBareChar starts (by decide)
    have tab : first ≠ '\t' := ne_of_isBareChar starts (by decide)
    rw [chars, List.cons_append, afterBlanks_cons (by simp [isBlank, space, tab])]
  have part := keyPart?_bare bare (c := ' ') (by decide) ('=' :: cs)
  have blank : afterBlanks (' ' :: '=' :: cs) = '=' :: cs := rfl
  have unfolded : key? (key.toList ++ ' ' :: '=' :: cs) =
      keyAfter? (78 + 1) [] (key.toList ++ ' ' :: '=' :: cs) := rfl
  rw [unfolded, keyAfter?, unblank, part]
  simp only [blank]
  rfl

theorem keyValue?_text (bare : IsBareKey key) (writes : Written text written)
    (apart : rest.head? ≠ some '"') (limit : Nat) :
    keyValue? (value? limit nesting)
        (key.toList ++ (" = \"".toList ++ (written ++ '"' :: rest))) =
      some ((⟨[], key⟩, .string (String.ofList text)), rest) := by
  have read := key?_bare bare (' ' :: '"' :: (written ++ '"' :: rest))
  have quoted : value? limit nesting ('"' :: (written ++ '"' :: rest)) =
      some (.string (String.ofList text), rest) := by
    have simple : value? limit nesting ('"' :: (written ++ '"' :: rest)) =
        textValue? ('"' :: (written ++ '"' :: rest)) := rfl
    rw [simple, textValue?, quotation?_written writes apart]
    rfl
  have blank : afterBlanks (' ' :: '"' :: (written ++ '"' :: rest)) =
      '"' :: (written ++ '"' :: rest) := rfl
  have marks : " = \"".toList = [' ', '=', ' ', '"'] := rfl
  simp only [keyValue?, marks, List.cons_append, List.nil_append, read, Option.bind_eq_bind,
    Option.bind_some, expect, if_true, blank, quoted]
  rfl

theorem Draft.add_key {draft : Draft} (top : draft.header = []) (new : draft.root.lookup key = none)
    (value : Value) :
    draft.add ⟨[], key⟩ value = some { draft with root := draft.root ++ [(key, value)] } := by
  simp [Draft.add, top, Fields.addUnder, Fields.add, Fields.within, new]

theorem lines?_gap (gap : Gap cs) (ends : LineEnd ending) (limit left : Nat) (draft : Draft)
    (rest : List Char) :
    lines? limit (left + 1) draft (cs ++ (ending ++ rest)) = lines? limit left draft rest := by
  obtain ⟨c, start, blanks, keyless, after⟩ := gap.after ends rest
  simp only [lines?, blanks, keyless, if_true, Option.bind_eq_bind, Option.bind_some, after]

theorem expression?_key {draft next : Draft} {key : Key} {value : Value} {limit : Nat}
    (headless : cs.head? ≠ some '[')
    (reads : keyValue? (value? limit nesting) cs = some ((key, value), rest))
    (added : draft.add key value = some next) : expression? limit draft cs = some (next, rest) := by
  unfold expression?
  split
  · exact absurd rfl headless
  · exact absurd rfl headless
  · simp [reads, added]

theorem lines?_entry {draft : Draft} (bare : IsBareKey key) (writes : Written text written)
    (ends : LineEnd ending) (top : draft.header = []) (new : draft.root.lookup key = none)
    (limit left : Nat) (rest : List Char) :
    lines? limit (left + 1) draft
        (key.toList ++ (" = \"".toList ++ (written ++ '"' :: (ending ++ rest)))) =
      lines? limit left
        { draft with root := draft.root ++ [(key, .string (String.ofList text))] } rest := by
  obtain ⟨first, others, chars, starts⟩ := bare.start
  have space : first ≠ ' ' := ne_of_isBareChar starts (by decide)
  have tab : first ≠ '\t' := ne_of_isBareChar starts (by decide)
  have bracket : first ≠ '[' := ne_of_isBareChar starts (by decide)
  have comment : first ≠ '#' := ne_of_isBareChar starts (by decide)
  have feed : first ≠ '\n' := ne_of_isBareChar starts (by decide)
  have carriage : first ≠ '\r' := ne_of_isBareChar starts (by decide)
  have apart : (ending ++ rest).head? ≠ some '"' := by cases ends <;> simp
  have reads := keyValue?_text bare writes apart limit
  have added := Draft.add_key top new (.string (String.ofList text))
  rw [chars, List.cons_append] at reads ⊢
  have unblank := afterBlanks_cons (c := first) (by simp [isBlank, space, tab])
  have keyed (cs : List Char) : startsBlankLine (first :: cs) = false := by
    simp [startsBlankLine, comment, feed, carriage]
  have expressed := expression?_key (by simpa using bracket) reads added
  simp only [lines?, unblank, keyed, Bool.false_eq_true, if_false, expressed,
    Option.bind_eq_bind, Option.bind_some, afterLine?_ending ends]

def textField (entry : String × String) : String × Value := (entry.1, .string entry.2)

theorem LineEnd.length_pos (ends : LineEnd ending) : 0 < ending.length := by
  cases ends <;> simp

theorem lines?_of_lines (lines : Lines entries text) {draft : Draft} {limit left : Nat}
    (top : draft.header = []) (distinct : (draft.root ++ entries.map textField).Pairwise
      fun field other => field.1 ≠ other.1) (enough : text.length < left) :
    lines? limit left draft text =
      some { draft with root := draft.root ++ entries.map textField } := by
  induction lines generalizing draft left with
  | nil =>
      cases left with
      | zero => omega
      | succ left => simp [lines?, afterBlanks]
  | gap gap ends more ih =>
      have positive := ends.length_pos
      simp only [List.length_append] at enough
      cases left with
      | zero => omega
      | succ left =>
          rw [lines?_gap gap ends]
          exact ih top distinct (by omega)
  | @entry key value entries written ending rest bare writes ends more ih =>
      have positive := ends.length_pos
      simp only [List.length_append, List.length_cons] at enough
      cases left with
      | zero => omega
      | succ left =>
          have moved : draft.root ++ ((key, value) :: entries).map textField =
              (draft.root ++ [(key, .string value)]) ++ entries.map textField := by
            simp [textField]
          have new : draft.root.lookup key = none := by
            refine List.lookup_eq_none_iff.mpr fun field member => ?_
            have other := (List.pairwise_append.mp distinct).2.2 field member _ List.mem_cons_self
            simpa [textField] using Ne.symm other
          rw [moved] at distinct ⊢
          rw [lines?_entry bare writes ends top new, String.ofList_toList]
          exact ih top distinct (by omega)

theorem head?_blanks {blanks : List Char} (only : ∀ c ∈ blanks, c ∈ [' ', '\t'])
    {cs : List Char} (after : cs.head? ≠ some '\uFEFF') :
    (blanks ++ cs).head? ≠ some '\uFEFF' := by
  cases blanks with
  | nil => exact after
  | cons c blanks =>
      intro same
      have blank := only c List.mem_cons_self
      rw [Option.some.inj same] at blank
      exact absurd blank (by decide)

theorem head?_lines (lines : Lines entries text) : text.head? ≠ some '\uFEFF' := by
  cases lines with
  | nil => simp
  | gap gap ends more =>
      cases gap with
      | blank only => exact head?_blanks only (by cases ends <;> simp)
      | comment only legal =>
          rw [List.append_assoc]
          exact head?_blanks only (by simp)
  | entry bare writes ends more =>
      obtain ⟨first, others, chars, starts⟩ := bare.start
      have apart : first ≠ '\uFEFF' := ne_of_isBareChar starts (by decide)
      simpa [chars] using apart

theorem read?_lines (lines : Lines entries text) (distinct : (entries.map Prod.fst).Nodup) :
    read? (String.ofList text) = some (entries.map textField) := by
  have markless : afterByteOrderMark text = text := by
    unfold afterByteOrderMark
    split
    · exact absurd rfl (head?_lines lines)
    · rfl
  have apart : (Draft.empty.root ++ entries.map textField).Pairwise
      fun field other => field.1 ≠ other.1 := by
    rw [Draft.empty, List.nil_append, List.pairwise_map]
    exact List.pairwise_map.mp distinct
  have read : lines? (text.length + 1) (text.length + 1) Draft.empty text =
      some { Draft.empty with root := Draft.empty.root ++ entries.map textField } :=
    lines?_of_lines lines rfl apart (Nat.lt_succ_self text.length)
  simp only [read?, String.toList_ofList, markless, read, Option.map_some]
  rfl

end KeywordHarvest.Toml
