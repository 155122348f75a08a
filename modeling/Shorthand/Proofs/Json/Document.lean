/-
This file proves that a document is read back from its text, in both layouts.

A reader takes the characters of a value at any place where a value is awaited, and is after that
value then. In a list or map it stands in one container more, so the depth of a document is what
counts against the number of containers that may be open. A map is read entry by entry, and since
its keys ascend each entry is put behind those before it.
-/

import Mathlib
import Shorthand.Proofs.Json.Mark
import Shorthand.Proofs.Literal.Evaluate

namespace Shorthand.Json

/-! ### Documents -/

mutual

/-- A document whose numbers are integers and whose maps have their entries in the order of the
keys. -/
def IsPlain : Json → Prop
  | .number (.float _) => False
  | .list items => AllPlain items
  | .map entries => KeysAscending entries ∧ EntriesPlain entries
  | _ => True

/-- All of some documents are plain. -/
def AllPlain : List Json → Prop
  | [] => True
  | item :: rest => item.IsPlain ∧ AllPlain rest

/-- The values of some entries are plain. -/
def EntriesPlain : List (String × Json) → Prop
  | [] => True
  | (_, value) :: rest => value.IsPlain ∧ EntriesPlain rest

end

mutual

/-- How many lists and maps are in each other at the deepest place of a document. -/
def depth : Json → Nat
  | .list items => itemsDepth items + 1
  | .map entries => entriesDepth entries + 1
  | _ => 0

/-- The greatest depth of some documents. -/
def itemsDepth : List Json → Nat
  | [] => 0
  | item :: rest => max item.depth (itemsDepth rest)

/-- The greatest depth of the values of some entries. -/
def entriesDepth : List (String × Json) → Nat
  | [] => 0
  | (_, value) :: rest => max value.depth (entriesDepth rest)

end

/-! ### Characters -/

theorem itemCharacters_eq (layout : Layout) (depth : Nat) (before : List (List Char))
    (items : List Json) :
    itemCharacters layout depth before items =
      before.reverse ++ items.map (characters layout depth) := by
  induction items generalizing before with
  | nil => rw [itemCharacters, List.map_nil, List.append_nil]
  | cons item rest inductionHypothesis =>
    rw [itemCharacters, inductionHypothesis, List.reverse_cons, List.append_assoc, List.map_cons,
      List.singleton_append]

/-- The characters of an entry of a map. -/
def entryText (layout : Layout) (depth : Nat) (entry : String × Json) : List Char :=
  stringCharacters entry.1 ++ layout.keyEnd ++ entry.2.characters layout depth

theorem entryCharacters_eq (layout : Layout) (depth : Nat) (before : List (List Char))
    (entries : List (String × Json)) :
    entryCharacters layout depth before entries =
      before.reverse ++ entries.map (entryText layout depth) := by
  induction entries generalizing before with
  | nil => rw [entryCharacters, List.map_nil, List.append_nil]
  | cons entry rest inductionHypothesis =>
    rw [entryCharacters, inductionHypothesis, List.reverse_cons, List.append_assoc, List.map_cons,
      List.singleton_append]
    rfl

/-! ### Steps of a reader -/

theorem readFrom_skip (taken : List Char) (reader : Reader) (rest : List Char) :
    readFrom taken.length reader (taken ++ rest) = readFrom 0 reader rest := by
  induction taken with
  | nil => rfl
  | cons first taken inductionHypothesis => exact inductionHypothesis

/-- What stands between marks is passed over. -/
theorem readFrom_space {spaces : List Char}
    (areSpaces : ∀ character ∈ spaces, isSpace character = true) (reader : Reader)
    (rest : List Char) : readFrom 0 reader (spaces ++ rest) = readFrom 0 reader rest := by
  induction spaces with
  | nil => rfl
  | cons first spaces inductionHypothesis =>
    obtain ⟨isFirst, areSpaces⟩ := List.forall_mem_cons.mp areSpaces
    rw [List.cons_append, readFrom]
    exact (if_pos isFirst).trans (inductionHypothesis areSpaces)

/-- A mark is taken with all its characters. -/
theorem readFrom_mark {first : Char} {others rest : List Char} {mark : Mark}
    {reader after : Reader} (notSpace : isSpace first = false)
    (isMark : markAt? (first :: (others ++ rest)) = some (mark, others.length + 1))
    (takes : reader.take mark = some after) :
    readFrom 0 reader (first :: (others ++ rest)) = readFrom 0 after rest := by
  rw [readFrom]
  simp only [notSpace, Bool.false_eq_true, if_false, isMark, takes, Nat.add_sub_cancel]
  exact readFrom_skip others after rest

/-- A mark of one character. -/
theorem readFrom_sign {sign : Char} {rest : List Char} {mark : Mark} {reader after : Reader}
    (notSpace : isSpace sign = false) (isMark : markAt? (sign :: rest) = some (mark, 1))
    (takes : reader.take mark = some after) :
    readFrom 0 reader (sign :: rest) = readFrom 0 after rest :=
  @readFrom_mark sign [] rest mark reader after notSpace isMark takes

/-- The line breaks of a layout stand between marks. -/
theorem isSpace_of_mem_lineBreak {layout : Layout} {depth : Nat} {character : Char}
    (member : character ∈ layout.lineBreak depth) : isSpace character = true := by
  cases layout with
  | compact => cases member
  | indented =>
    rcases List.mem_cons.mp member with rfl | isBlank
    · rfl
    · rw [List.eq_of_mem_replicate isBlank]
      rfl

/-- A line break and a closing bracket end a value. -/
theorem ends_lineBreak (layout : Layout) (depth : Nat) {closing : Char}
    (isClosing : closing ∈ [',', ']', '\x7d', '\n']) (rest : List Char) :
    Ends (layout.lineBreak depth ++ closing :: rest) := by
  cases layout with
  | compact =>
    rintro _ ⟨⟩
    exact isClosing
  | indented =>
    rintro _ ⟨⟩
    decide

/-! ### Places -/

/-- A reader that takes the first mark of a value as one that stands in some containers. -/
def Awaits (reader : Reader) (outer : List Container) : Prop :=
  ∀ mark, mark ≠ .closeList → reader.take mark = Reader.takeValue outer mark

theorem awaits_value (outer : List Container) : Awaits ⟨outer, .value⟩ outer := fun _ _ => rfl

theorem awaits_listStart (outer : List Container) :
    Awaits ⟨outer, .listStart⟩ (.list [] :: outer) := by
  intro mark isOther
  cases mark with
  | closeList => exact absurd rfl isOther
  | _ => rfl

/-- A reader that takes a string as the key after some entries. -/
def AwaitsKey (reader : Reader) (outer : List Container) (entries : Table Json) : Prop :=
  ∀ key, reader.take (.leaf (.string key)) = some ⟨outer, .keyEnd entries key⟩

/-- A text takes a reader to another one if what comes after it ends a value. -/
def Reads (reader : Reader) (text : List Char) (after : Reader) : Prop :=
  ∀ rest, Ends rest → readFrom 0 reader (text ++ rest) = readFrom 0 after rest

section

variable {reader : Reader} {outer : List Container} {text : List Char}

theorem reads_leaf {value : Json} {first : Char} {others : List Char}
    (notSpace : isSpace first = false)
    (isMark : ∀ rest, Ends rest →
      markAt? (first :: (others ++ rest)) = some (.leaf value, others.length + 1))
    (awaits : Awaits reader outer) : Reads reader (first :: others) ⟨outer, .valueEnd value⟩ :=
  fun rest ends => readFrom_mark notSpace (isMark rest ends) (awaits _ Mark.noConfusion)

theorem reads_string (value : String) (awaits : Awaits reader outer) :
    Reads reader (stringCharacters value) ⟨outer, .valueEnd (.string value)⟩ :=
  reads_leaf rfl (fun rest _ => markAt?_string value rest) awaits

theorem reads_integer (value : Int64) (awaits : Awaits reader outer) :
    Reads reader (integerText value.toInt).toList
      ⟨outer, .valueEnd (.number (.integer value))⟩ := by
  obtain ⟨first, others, begins, isNumber⟩ := integerText_begins value.toInt
  have notSpace : isSpace first = false := by
    rw [← Bool.not_eq_true]
    intro isBlank
    simp only [isSpace, Bool.or_eq_true, beq_iff_eq] at isBlank
    rcases isBlank with ((rfl | rfl) | rfl) | rfl <;> rcases isNumber with same | isDigit <;>
      contradiction
  have isMark (rest : List Char) (ends : Ends rest) := markAt?_integer value ends
  rw [begins] at isMark ⊢
  exact reads_leaf notSpace isMark awaits

/-! ### Signs between values -/

variable {layout : Layout} {depth : Nat} {middle after : Reader}

/-- A value with the comma and the line break after it. -/
theorem read_comma (reads : Reads reader text middle) (takes : middle.take .comma = some after)
    (rest : List Char) :
    readFrom 0 reader (text ++ (',' :: layout.lineBreak depth ++ rest)) =
      readFrom 0 after rest := by
  have ends : Ends (',' :: layout.lineBreak depth ++ rest) := by
    rintro _ ⟨⟩
    decide
  rw [reads _ ends]
  refine (readFrom_sign rfl rfl takes).trans ?_
  exact readFrom_space (fun _ => isSpace_of_mem_lineBreak) after rest

/-- A value with the line break and the closing bracket after it. -/
theorem read_closing {closing : Char} {mark : Mark}
    (isClosing : (closing, mark) ∈ [(']', Mark.closeList), ('\x7d', .closeMap)])
    (reads : Reads reader text middle) (takes : middle.take mark = some after)
    (rest : List Char) :
    readFrom 0 reader (text ++ (layout.lineBreak depth ++ closing :: rest)) =
      readFrom 0 after rest := by
  simp only [List.mem_cons, Prod.mk.injEq, List.not_mem_nil, or_false] at isClosing
  have ends : Ends (layout.lineBreak depth ++ closing :: rest) := by
    refine ends_lineBreak layout depth ?_ rest
    rcases isClosing with ⟨rfl, rfl⟩ | ⟨rfl, rfl⟩ <;> decide
  rw [reads _ ends, readFrom_space fun _ => isSpace_of_mem_lineBreak]
  rcases isClosing with ⟨rfl, rfl⟩ | ⟨rfl, rfl⟩ <;> exact readFrom_sign rfl rfl takes

/-- A key with the colon after it. -/
theorem read_key {entries : Table Json} (awaits : AwaitsKey reader outer entries) (key : String)
    (rest : List Char) :
    readFrom 0 reader (stringCharacters key ++ (layout.keyEnd ++ rest)) =
      readFrom 0 ⟨.map entries key :: outer, .value⟩ rest := by
  have toKey : readFrom 0 reader (stringCharacters key ++ (layout.keyEnd ++ rest)) =
      readFrom 0 ⟨outer, .keyEnd entries key⟩ (layout.keyEnd ++ rest) :=
    readFrom_mark rfl (markAt?_string key _) (awaits key)
  have toColon (rest : List Char) : readFrom 0 ⟨outer, .keyEnd entries key⟩ (':' :: rest) =
      readFrom 0 ⟨.map entries key :: outer, .value⟩ rest := readFrom_sign rfl rfl rfl
  rw [toKey]
  cases layout with
  | compact => exact toColon rest
  | indented => exact toColon (' ' :: rest)

end

/-! ### Whole documents -/

/-- The parts of a list or map with at least one of them, in its brackets. -/
theorem enclosed_eq (layout : Layout) (depth : Nat) (opening closing : Char)
    {parts : List (List Char)} (some_ : parts ≠ []) (rest : List Char) :
    layout.enclosed depth opening closing parts ++ rest =
      opening :: (layout.lineBreak (depth + 1) ++
        ((',' :: layout.lineBreak (depth + 1)).intercalate parts ++
          (layout.lineBreak depth ++ closing :: rest))) := by
  cases parts with
  | nil => exact absurd rfl some_
  | cons part parts =>
    simp only [Layout.enclosed, List.cons_append, List.append_assoc, List.nil_append]

/-- A list or map may be opened if fewer than the greatest number of them are open. -/
theorem Awaits.enter {reader : Reader} {outer : List Container} (awaits : Awaits reader outer)
    (shallow : outer.length < greatestDepth) :
    reader.take .openList = some ⟨outer, .listStart⟩ ∧
      reader.take .openMap = some ⟨outer, .mapStart⟩ :=
  ⟨(awaits _ Mark.noConfusion).trans (if_pos shallow),
    (awaits _ Mark.noConfusion).trans (if_pos shallow)⟩

/-- An opening bracket with the line break after it. -/
theorem read_opening {opening : Char} {mark : Mark} {reader after : Reader} {layout : Layout}
    {depth : Nat} (notSpace : isSpace opening = false) (rest : List Char)
    (isMark : ∀ rest, markAt? (opening :: rest) = some (mark, 1))
    (takes : reader.take mark = some after) :
    readFrom 0 reader (opening :: (layout.lineBreak depth ++ rest)) = readFrom 0 after rest :=
  (readFrom_sign notSpace (isMark _) takes).trans
    (readFrom_space (fun _ => isSpace_of_mem_lineBreak) after rest)

theorem insert_entries {before : Table Json} {key : String} {value : Json}
    {others : List (String × Json)}
    (ascending : KeysAscending (before.entries ++ (key, value) :: others)) :
    (before.insert key value).entries = before.entries ++ [(key, value)] :=
  insertEntry_last fun entry member =>
    (List.pairwise_append.mp ascending).2.2 entry member (key, value) List.mem_cons_self

mutual

/-- A document is read where a value is awaited. -/
theorem reads_document (layout : Layout) : ∀ (document : Json) (depth : Nat) (reader : Reader)
    (outer : List Container), document.IsPlain → Awaits reader outer →
      outer.length + document.depth ≤ greatestDepth →
        Reads reader (document.characters layout depth) ⟨outer, .valueEnd document⟩
  | .null, _, _, _, _, awaits, _ => by
    rw [characters]
    exact reads_leaf rfl (fun _ _ => rfl) awaits
  | .boolean true, _, _, _, _, awaits, _ => by
    rw [characters]
    exact reads_leaf rfl (fun _ _ => rfl) awaits
  | .boolean false, _, _, _, _, awaits, _ => by
    rw [characters]
    exact reads_leaf rfl (fun _ _ => rfl) awaits
  | .number (.integer value), _, _, _, _, awaits, _ => by
    rw [characters]
    exact reads_integer value awaits
  | .number (.float _), _, _, _, isPlain, _, _ => False.elim isPlain
  | .string value, _, _, _, _, awaits, _ => by
    rw [characters]
    exact reads_string value awaits
  | .list items, height, reader, outer, isPlain, awaits, shallow => by
    rw [depth] at shallow
    have opens := (awaits.enter (by omega)).1
    intro rest _
    rw [characters, itemCharacters_eq]
    by_cases nothing : items = []
    · subst nothing
      exact (readFrom_sign rfl rfl opens).trans (readFrom_sign rfl rfl rfl)
    · rw [enclosed_eq _ _ _ _ (by simpa using nothing), read_opening rfl _ (fun _ => rfl) opens]
      exact read_items layout items height _ [] outer rest nothing isPlain
        (awaits_listStart outer) (by omega)
  | .map entries, height, reader, outer, isPlain, awaits, shallow => by
    rw [depth] at shallow
    have opens := (awaits.enter (by omega)).2
    intro rest _
    rw [characters, entryCharacters_eq]
    by_cases nothing : entries = []
    · subst nothing
      exact (readFrom_sign rfl rfl opens).trans (readFrom_sign rfl rfl rfl)
    · rw [enclosed_eq _ _ _ _ (by simpa using nothing), read_opening rfl _ (fun _ => rfl) opens]
      exact read_entries layout entries height _ Table.empty outer rest nothing isPlain.2
        isPlain.1 (fun _ => rfl) (by omega)

/-- The items of a list are read up to its closing bracket. -/
theorem read_items (layout : Layout) : ∀ (items : List Json) (height : Nat) (reader : Reader)
    (before : List Json) (outer : List Container) (rest : List Char), items ≠ [] →
      AllPlain items → Awaits reader (.list before :: outer) →
        outer.length + 1 + itemsDepth items ≤ greatestDepth →
          readFrom 0 reader ((',' :: layout.lineBreak (height + 1)).intercalate
              (items.map (characters layout (height + 1))) ++
                (layout.lineBreak height ++ ']' :: rest)) =
            readFrom 0 ⟨outer, .valueEnd (.list (before.reverse ++ items))⟩ rest
  | [], _, _, _, _, _, some_, _, _, _ => absurd rfl some_
  | [item], height, reader, before, outer, rest, _, isPlain, awaits, shallow => by
    rw [itemsDepth, itemsDepth] at shallow
    have reads := reads_document layout item (height + 1) reader (.list before :: outer) isPlain.1
      awaits (by rw [List.length_cons]; omega)
    rw [List.map_singleton, List.intercalate_singleton]
    refine (read_closing List.mem_cons_self reads rfl rest).trans ?_
    rw [List.reverse_cons]
  | item :: next :: others, height, reader, before, outer, rest, _, isPlain, awaits, shallow => by
    rw [itemsDepth] at shallow
    have reads := reads_document layout item (height + 1) reader (.list before :: outer) isPlain.1
      awaits (by rw [List.length_cons]; omega)
    have further := read_items layout (next :: others) height _ (item :: before) outer rest
      (List.cons_ne_nil _ _) isPlain.2 (awaits_value _) (by omega)
    rw [List.map_cons, List.map_cons, List.intercalate_cons_cons, List.append_assoc,
      List.append_assoc, read_comma reads rfl]
    refine further.trans ?_
    rw [List.reverse_cons, List.append_assoc, List.singleton_append]

/-- The entries of a map are read up to its closing bracket. -/
theorem read_entries (layout : Layout) : ∀ (entries : List (String × Json)) (height : Nat)
    (reader : Reader) (before : Table Json) (outer : List Container) (rest : List Char),
      entries ≠ [] → EntriesPlain entries → KeysAscending (before.entries ++ entries) →
        AwaitsKey reader outer before →
          outer.length + 1 + entriesDepth entries ≤ greatestDepth →
            readFrom 0 reader ((',' :: layout.lineBreak (height + 1)).intercalate
                (entries.map (entryText layout (height + 1))) ++
                  (layout.lineBreak height ++ '\x7d' :: rest)) =
              readFrom 0 ⟨outer, .valueEnd (.map (before.entries ++ entries))⟩ rest
  | [], _, _, _, _, _, some_, _, _, _, _ => absurd rfl some_
  | [(key, value)], height, reader, before, outer, rest, _, isPlain, ascending, awaits,
      shallow => by
    rw [entriesDepth, entriesDepth] at shallow
    have reads := reads_document layout value (height + 1) _ (.map before key :: outer) isPlain.1
      (awaits_value _) (by rw [List.length_cons]; omega)
    rw [List.map_singleton, List.intercalate_singleton, entryText, List.append_assoc,
      List.append_assoc, read_key awaits]
    refine (read_closing (List.mem_cons_of_mem _ List.mem_cons_self) reads rfl rest).trans ?_
    rw [insert_entries ascending]
  | (key, value) :: next :: others, height, reader, before, outer, rest, _, isPlain, ascending,
      awaits, shallow => by
    rw [entriesDepth] at shallow
    have reads := reads_document layout value (height + 1) _ (.map before key :: outer) isPlain.1
      (awaits_value _) (by rw [List.length_cons]; omega)
    have inserted := insert_entries ascending
    have together : (before.insert key value).entries ++ next :: others =
        before.entries ++ (key, value) :: next :: others := by
      rw [inserted, List.append_assoc, List.singleton_append]
    have further := read_entries layout (next :: others) height ⟨outer, .key _⟩
      (before.insert key value) outer rest (List.cons_ne_nil _ _) isPlain.2 (together ▸ ascending)
      (fun _ => rfl) (by omega)
    rw [List.map_cons, List.map_cons, List.intercalate_cons_cons, entryText]
    simp only [List.append_assoc]
    rw [read_key awaits, read_comma reads rfl]
    rw [together] at further
    exact further

end

/-- A document is read back from its text. -/
theorem read?_text (layout : Layout) {document : Json} (isPlain : document.IsPlain)
    (shallow : document.depth ≤ greatestDepth) :
    read? (document.text layout) = some document := by
  have reads := reads_document layout document 0 Reader.start [] isPlain (awaits_value [])
    (by rwa [List.length_nil, Nat.zero_add]) [] .nil
  rw [List.append_nil] at reads
  rw [read?, text, String.toList_ofList, reads]
  rfl

end Shorthand.Json
