import ServiceBoot.Proofs.Json.Numbers
import ServiceBoot.Proofs.Json.Strings

/-!
# Reading back documents

The indented form of a value is read back as the value, if the value is nested no deeper and its
integers are no longer than the reader takes. The elements of a list are read one after the other,
each between blanks, and so are the members of an object.
-/

namespace ServiceBoot.Json

/-- A value without reals that the reader takes with so many levels of values in it. -/
inductive Readable [Limits] : Nat → Value → Prop
  | null {levels : Nat} : Readable levels .null
  | bool {levels : Nat} {value : Bool} : Readable levels (.bool value)
  | int {levels : Nat} {n : Int} (h : IsReadable n) : Readable levels (.int n)
  | str {levels : Nat} {text : String} : Readable levels (.str text)
  | emptyList {levels : Nat} : Readable levels (.list [])
  | emptyObject {levels : Nat} : Readable levels (.object [])
  | list {levels : Nat} {items : List Value} (h : ∀ item ∈ items, Readable levels item) :
      Readable (levels + 1) (.list items)
  | object {levels : Nat} {members : Members} (h : ∀ member ∈ members, Readable levels member.2) :
      Readable (levels + 1) (.object members)

@[simp]
theorem readable_str [Limits] {levels : Nat} {text : String} : Readable levels (.str text) := .str

@[simp]
theorem readable_int_iff [Limits] {levels : Nat} {n : Int} :
    Readable levels (.int n) ↔ IsReadable n := by
  constructor
  · intro h
    cases h
    assumption
  · exact .int

namespace Reader

open Text.Utf8 (encode encode_append)

/-! ## Written bytes -/

theorem skipBlanks_newline (indent : Nat) (s : Bytes) :
    skipBlanks (encode (newline indent) ++ s) = skipBlanks s := by
  have hspaces (n : Nat) : skipBlanks (encode (List.replicate n ' ') ++ s) = skipBlanks s := by
    induction n with
    | zero => rfl
    | succ n ih => exact ih
  exact hspaces (2 * indent)

theorem skipBlanks_cons {b : UInt8} (h : isBlank b = false) (s : Bytes) :
    skipBlanks (b :: s) = b :: s := by
  rw [skipBlanks, List.dropWhile_cons_of_neg (by simp [h])]

/-- What a value begins with, that tells it from blanks and from the end of a list or an object. -/
def Begins (bytes : Bytes) : Prop :=
  ∃ b s, bytes = b :: s ∧ isBlank b = false ∧ b ≠ 0x5D ∧ b ≠ 0x7D

theorem Begins.append {bytes : Bytes} (h : Begins bytes) (s : Bytes) : Begins (bytes ++ s) := by
  obtain ⟨b, t, rfl, hb⟩ := h
  exact ⟨b, t ++ s, rfl, hb⟩

theorem Begins.skipBlanks {bytes : Bytes} (h : Begins bytes) : skipBlanks bytes = bytes := by
  obtain ⟨b, s, rfl, hblank, -⟩ := h
  exact skipBlanks_cons hblank s

theorem begins_of_isDigit {b : UInt8} (h : isDigit b = true) (s : Bytes) : Begins (b :: s) := by
  have hne {other : UInt8} (hother : isDigit other = false) : b ≠ other := by
    rintro rfl
    exact absurd h (by simp [hother])
  have hblank : isBlank b = false := by
    simp [isBlank, hne (by decide : isDigit 0x20 = false), hne (by decide : isDigit 0x09 = false),
      hne (by decide : isDigit 0x0A = false), hne (by decide : isDigit 0x0D = false)]
  exact ⟨b, s, rfl, hblank, hne (by decide), hne (by decide)⟩

theorem begins_indented [Limits] {levels : Nat} {v : Value} (h : Readable levels v) (indent : Nat) :
    Begins (encode (indented indent v)) := by
  cases h with
  | null => exact ⟨0x6E, _, rfl, by decide, by decide, by decide⟩
  | @bool _ value =>
    cases value with
    | true => exact ⟨0x74, _, rfl, by decide, by decide, by decide⟩
    | false => exact ⟨0x66, _, rfl, by decide, by decide, by decide⟩
  | @int _ n =>
    rw [indented]
    cases n with
    | ofNat n =>
      obtain ⟨b, s, hbytes, hdigit⟩ := encode_toDigits_eq_cons n
      rw [Int.ofNat_eq_natCast, intChars_ofNat, hbytes]
      exact begins_of_isDigit hdigit s
    | negSucc n =>
      rw [intChars_negSucc]
      exact ⟨0x2D, _, rfl, by decide, by decide, by decide⟩
  | str => exact ⟨0x22, _, rfl, by decide, by decide, by decide⟩
  | emptyList => exact ⟨0x5B, _, rfl, by decide, by decide, by decide⟩
  | emptyObject => exact ⟨0x7B, _, rfl, by decide, by decide, by decide⟩
  | @list _ items =>
    cases items <;> exact ⟨0x5B, _, rfl, by decide, by decide, by decide⟩
  | @object _ members =>
    cases members <;> exact ⟨0x7B, _, rfl, by decide, by decide, by decide⟩

/-! ## Lists -/

/-- The value is read from its indented form, wherever that stands. -/
def ReadsBack (element : Element) (v : Value) : Prop :=
  ∀ indent rest, Delimited rest → element (encode (indented indent v) ++ rest) = .ok (v, rest)

/-- What stands behind an element: a comma or, on a line of its own, the end of the whole. -/
theorem encode_items_nil (indent closing : Nat) (rest : Bytes) :
    encode (indentedItems indent []) ++ (encode (newline closing) ++ 0x5D :: rest) =
      encode (newline closing) ++ 0x5D :: rest := rfl

theorem encode_items_cons (indent : Nat) (first : Value) (others : List Value) (s : Bytes) :
    encode (indentedItems indent (first :: others)) ++ s =
      0x2C :: (encode (newline indent) ++ (encode (indented indent first) ++
        (encode (indentedItems indent others) ++ s))) := by
  rw [indentedItems, encode_append, encode_append, List.append_assoc, List.append_assoc]
  rfl

theorem delimited_newline (indent : Nat) (s : Bytes) :
    Delimited (encode (newline indent) ++ s) := by
  intro b hb
  cases hb
  decide

theorem delimited_comma (s : Bytes) : Delimited (0x2C :: s) := by
  intro b hb
  cases hb
  decide

theorem items_indented {element : Element} {indent : Nat} (closing : Nat) {first : Value}
    {others : List Value} (hreads : ∀ item ∈ first :: others, ReadsBack element item)
    (hbegins : ∀ item ∈ others, Begins (encode (indented indent item))) {budget : Nat}
    (hbudget : others.length < budget) (rest : Bytes) :
    items element budget (encode (indented indent first) ++
      (encode (indentedItems indent others) ++ (encode (newline closing) ++ 0x5D :: rest))) =
        .ok (first :: others, rest) := by
  induction others generalizing first budget with
  | nil =>
    obtain ⟨budget, rfl⟩ := Nat.exists_eq_add_of_lt hbudget
    have hread := hreads first (List.mem_cons_self ..) indent _
      (delimited_newline closing (0x5D :: rest))
    have hskip : skipBlanks (encode (newline closing) ++ 0x5D :: rest) = 0x5D :: rest :=
      skipBlanks_newline closing _
    rw [encode_items_nil, items]
    simp only [hread, bind, Except.bind, hskip]
    rfl
  | cons second others ih =>
    obtain ⟨budget, rfl⟩ : ∃ n, budget = n + 1 := ⟨budget - 1, by omega⟩
    obtain ⟨hfirst, hreads⟩ := List.forall_mem_cons.mp hreads
    obtain ⟨hsecond, hbegins⟩ := List.forall_mem_cons.mp hbegins
    have hrest := ih hreads hbegins
      (show others.length < budget from Nat.lt_of_succ_lt_succ hbudget)
    have hbegin := hsecond.append
      (encode (indentedItems indent others) ++ (encode (newline closing) ++ 0x5D :: rest))
    have hskip := (skipBlanks_newline indent _).trans hbegin.skipBlanks
    obtain ⟨b, s, hbytes, -, hend, -⟩ := hbegin
    rw [hbytes] at hrest hskip
    have hread := hfirst indent _ (delimited_comma (encode (newline indent) ++ b :: s))
    have hcomma (s : Bytes) : skipBlanks (0x2C :: s) = 0x2C :: s := skipBlanks_cons (by decide) s
    rw [encode_items_cons, hbytes, items]
    simp only [hread, bind, Except.bind, hcomma, hskip, if_neg hend, hrest]
    rfl

theorem length_le_encode_items (indent : Nat) (items : List Value) :
    items.length ≤ (encode (indentedItems indent items)).length := by
  induction items with
  | nil => exact Nat.zero_le _
  | cons first others ih =>
    have hcons := encode_items_cons indent first others []
    rw [List.append_nil] at hcons
    rw [hcons]
    simp only [List.length_cons, List.length_append]
    omega

theorem node_list [Limits] {element : Element} {items : List Value}
    (hreads : ∀ item ∈ items, ReadsBack element item)
    (hbegins : ∀ item ∈ items, ∀ indent, Begins (encode (indented indent item))) :
    ReadsBack (node element) (.list items) := by
  intro indent rest _
  cases items with
  | nil => rfl
  | cons first others =>
    have hbytes : encode (indented indent (.list (first :: others))) ++ rest =
        0x5B :: (encode (newline (indent + 1)) ++ (encode (indented (indent + 1) first) ++
          (encode (indentedItems (indent + 1) others) ++
            (encode (newline indent) ++ 0x5D :: rest)))) := by
      rw [indented, encode_append, encode_append, encode_append, encode_append,
        List.append_assoc, List.append_assoc, List.append_assoc, List.append_assoc]
      rfl
    obtain ⟨hfirst, hothers⟩ := List.forall_mem_cons.mp hbegins
    have hbegin := (hfirst (indent + 1)).append
      (encode (indentedItems (indent + 1) others) ++ (encode (newline indent) ++ 0x5D :: rest))
    have hskip := (skipBlanks_newline (indent + 1) _).trans hbegin.skipBlanks
    have hlength := length_le_encode_items (indent + 1) others
    obtain ⟨b, s, htail, -, hend, -⟩ := hbegin
    have hbudget : others.length < s.length + 1 := by
      have htotal := congrArg List.length htail
      simp only [List.length_append, List.length_cons] at htotal
      omega
    have hitems := items_indented indent hreads
      (fun item hitem ↦ hothers item hitem (indent + 1)) hbudget rest
    rw [htail] at hskip hitems
    rw [hbytes, htail]
    calc
      _ = list element (encode (newline (indent + 1)) ++ b :: s) := rfl
      _ = .ok (.list (first :: others), rest) := by
        rw [list, hskip]
        simp only [if_neg hend, hitems]
        rfl

/-! ## Objects -/

theorem encode_members_nil (indent closing : Nat) (rest : Bytes) :
    encode (indentedMembers indent []) ++ (encode (newline closing) ++ 0x7D :: rest) =
      encode (newline closing) ++ 0x7D :: rest := rfl

/-- A member as it is written, with its name before the value. -/
def writtenMember (indent : Nat) (member : String × Value) : Bytes :=
  encode (quotedChars isPlain member.1) ++ 0x3A :: 0x20 :: encode (indented indent member.2)

theorem encode_members_cons (indent : Nat) (first : String × Value) (others : Members)
    (s : Bytes) : encode (indentedMembers indent (first :: others)) ++ s =
      0x2C :: (encode (newline indent) ++ (writtenMember indent first ++
        (encode (indentedMembers indent others) ++ s))) := by
  obtain ⟨key, v⟩ := first
  rw [indentedMembers, encode_append, encode_append, encode_append, encode_append, writtenMember,
    List.append_assoc, List.append_assoc, List.append_assoc, List.append_assoc, List.append_assoc]
  rfl

theorem writtenMember_eq_cons (indent : Nat) (member : String × Value) :
    ∃ s, writtenMember indent member = 0x22 :: s := ⟨_, rfl⟩

theorem member_written {element : Element} {indent : Nat} {v : Value} (key : String)
    (hread : ReadsBack element v) (hbegin : Begins (encode (indented indent v))) {rest : Bytes}
    (hrest : Delimited rest) :
    member element (writtenMember indent (key, v) ++ rest) = .ok ((key, v), rest) := by
  have hvalue := hbegin.append rest
  have hskip : skipBlanks (0x20 :: (encode (indented indent v) ++ rest)) =
      encode (indented indent v) ++ rest := hvalue.skipBlanks
  have hcolon (s : Bytes) : skipBlanks (0x3A :: s) = 0x3A :: s := skipBlanks_cons (by decide) s
  have hread := hread indent rest hrest
  obtain ⟨b, s, hbytes, -⟩ := hvalue
  rw [hbytes] at hskip hread
  rw [writtenMember, List.append_assoc, encode_quotedChars, List.cons_append, List.cons_append,
    hbytes, member]
  simp only [string_quoted, bind, Except.bind, hcolon, hskip, hread, ne_eq,
    not_true_eq_false, if_false]
  rfl

theorem members_indented {element : Element} {indent : Nat} (closing : Nat)
    {first : String × Value} {others : Members}
    (hreads : ∀ member ∈ first :: others, ReadsBack element member.2)
    (hbegins : ∀ member ∈ first :: others, Begins (encode (indented indent member.2)))
    {budget : Nat} (hbudget : others.length < budget) (rest : Bytes) :
    members element budget (writtenMember indent first ++
      (encode (indentedMembers indent others) ++ (encode (newline closing) ++ 0x7D :: rest))) =
        .ok (first :: others, rest) := by
  induction others generalizing first budget with
  | nil =>
    obtain ⟨budget, rfl⟩ := Nat.exists_eq_add_of_lt hbudget
    obtain ⟨hfirst, -⟩ := List.forall_mem_cons.mp hreads
    obtain ⟨hbegin, -⟩ := List.forall_mem_cons.mp hbegins
    have hread := member_written first.1 hfirst hbegin
      (delimited_newline closing (0x7D :: rest))
    have hskip : skipBlanks (encode (newline closing) ++ 0x7D :: rest) = 0x7D :: rest :=
      skipBlanks_newline closing _
    rw [encode_members_nil, members]
    simp only [hread, bind, Except.bind, hskip]
    rfl
  | cons second others ih =>
    obtain ⟨budget, rfl⟩ : ∃ n, budget = n + 1 := ⟨budget - 1, by omega⟩
    obtain ⟨hfirst, hreads⟩ := List.forall_mem_cons.mp hreads
    obtain ⟨hbegin, hbegins⟩ := List.forall_mem_cons.mp hbegins
    have hrest := ih hreads hbegins
      (show others.length < budget from Nat.lt_of_succ_lt_succ hbudget)
    have hread (s : Bytes) := member_written first.1 hfirst hbegin
      (delimited_comma (encode (newline indent) ++ s))
    have hcomma (s : Bytes) : skipBlanks (0x2C :: s) = 0x2C :: s := skipBlanks_cons (by decide) s
    have hskip (s : Bytes) : skipBlanks (encode (newline indent) ++ 0x22 :: s) = 0x22 :: s :=
      skipBlanks_newline indent _
    obtain ⟨s, hsecond⟩ := writtenMember_eq_cons indent second
    rw [hsecond, List.cons_append] at hrest
    rw [encode_members_cons, hsecond, List.cons_append, members]
    simp only [hread, bind, Except.bind, hcomma, hskip, hrest]
    rfl

theorem length_le_encode_members (indent : Nat) (members : Members) :
    members.length ≤ (encode (indentedMembers indent members)).length := by
  induction members with
  | nil => exact Nat.zero_le _
  | cons first others ih =>
    have hcons := encode_members_cons indent first others []
    rw [List.append_nil] at hcons
    rw [hcons]
    simp only [List.length_cons, List.length_append]
    omega

theorem node_object [Limits] {element : Element} {members : Members}
    (hreads : ∀ member ∈ members, ReadsBack element member.2)
    (hbegins : ∀ member ∈ members, ∀ indent, Begins (encode (indented indent member.2))) :
    ReadsBack (node element) (.object members) := by
  intro indent rest _
  cases members with
  | nil => rfl
  | cons first others =>
    have hbytes : encode (indented indent (.object (first :: others))) ++ rest =
        0x7B :: (encode (newline (indent + 1)) ++ (writtenMember (indent + 1) first ++
          (encode (indentedMembers (indent + 1) others) ++
            (encode (newline indent) ++ 0x7D :: rest)))) := by
      obtain ⟨key, v⟩ := first
      rw [indented, encode_append, encode_append, encode_append, encode_append, encode_append,
        encode_append, writtenMember, List.append_assoc, List.append_assoc, List.append_assoc,
        List.append_assoc, List.append_assoc, List.append_assoc, List.append_assoc]
      rfl
    obtain ⟨s, hfirst⟩ := writtenMember_eq_cons (indent + 1) first
    have hskip (s : Bytes) : skipBlanks (encode (newline (indent + 1)) ++ 0x22 :: s) = 0x22 :: s :=
      skipBlanks_newline (indent + 1) _
    have hlength := length_le_encode_members (indent + 1) others
    have hmembers (budget : Nat) (hbudget : others.length < budget) := members_indented indent
      hreads (fun member hmember ↦ hbegins member hmember (indent + 1)) hbudget rest
    rw [hfirst, List.cons_append] at hmembers
    rw [hbytes, hfirst, List.cons_append]
    calc
      _ = object element (encode (newline (indent + 1)) ++ 0x22 :: _) := rfl
      _ = .ok (.object (first :: others), rest) := by
        rw [object, hskip]
        simp only [if_neg (by decide : ¬(0x22 : UInt8) = 0x7D), ne_eq, not_true_eq_false, if_false]
        rw [hmembers _ (by simp only [List.length_append, List.length_cons]; omega)]
        rfl

/-! ## Documents -/

theorem value_eq_node [Limits] (levels : Nat) : ∃ element, value levels = node element := by
  cases levels with
  | zero => exact ⟨_, rfl⟩
  | succ levels => exact ⟨_, rfl⟩

theorem readsBack_of_readable [Limits] {levels : Nat} {v : Value} (h : Readable levels v) :
    ReadsBack (value levels) v := by
  induction h with
  | @null levels =>
    obtain ⟨element, hnode⟩ := value_eq_node levels
    intro indent rest _
    rw [hnode]
    rfl
  | @bool levels flag =>
    obtain ⟨element, hnode⟩ := value_eq_node levels
    intro indent rest _
    rw [hnode]
    cases flag <;> rfl
  | @int levels n hlength =>
    obtain ⟨element, hnode⟩ := value_eq_node levels
    intro indent rest hrest
    rw [hnode, indented]
    exact node_intChars element hlength hrest
  | @str levels text =>
    obtain ⟨element, hnode⟩ := value_eq_node levels
    intro indent rest _
    rw [hnode, indented, encode_quotedChars, node, if_pos rfl, string_quoted]
    rfl
  | @emptyList levels =>
    obtain ⟨element, hnode⟩ := value_eq_node levels
    rw [hnode]
    exact node_list (List.forall_mem_nil _) (List.forall_mem_nil _)
  | @emptyObject levels =>
    obtain ⟨element, hnode⟩ := value_eq_node levels
    rw [hnode]
    exact node_object (List.forall_mem_nil _) (List.forall_mem_nil _)
  | list hitems ih =>
    apply node_list ih
    intro item hitem
    exact begins_indented (hitems item hitem)
  | object hmembers ih =>
    apply node_object ih
    intro member hmember
    exact begins_indented (hmembers member hmember)

theorem document_indented [Limits] {levels : Nat} {v : Value} (h : Readable levels v) :
    document levels (encode (indented 0 v)) = .ok v := by
  have hbegin := begins_indented h 0
  have hskip := hbegin.skipBlanks
  have hend : Delimited [] := by
    intro b hb
    cases hb
  have hread := readsBack_of_readable h 0 [] hend
  rw [List.append_nil] at hread
  obtain ⟨b, s, hbytes, -⟩ := hbegin
  rw [hbytes] at hskip hread
  rw [hbytes, document, hskip]
  simp only [hread, bind, Except.bind]
  rfl

end Reader

/-- A document is read back as the value that was written. -/
theorem readWithin_pretty [Limits] {levels : Nat} {v : Value} (h : Readable levels v) :
    readWithin levels (Text.Utf8.encode v.pretty.toList) = .ok v := by
  rw [Value.pretty, String.toList_ofList, readWithin, Reader.document_indented h]

end ServiceBoot.Json
