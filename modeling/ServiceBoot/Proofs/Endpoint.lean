import Mathlib.Data.List.TakeWhile
import ServiceBoot.Endpoint
import ServiceBoot.Proofs.Block.Resolved
import ServiceBoot.Proofs.Except
import ServiceBoot.Proofs.Text.Numeral

/-!
# How an endpoint is written

An endpoint is read from exactly the texts of its grammar: a host, or an address between brackets,
with or without a port. What is written as a host with a port is read back, and so is the address of
a connection whose host allows for it.
-/

namespace ServiceBoot.Endpoint

open Text.Numeral (Denotes denotes_toDigits)

/-- The numeral of a port, in the digits of any script. -/
structure IsPort (digits : List Char) (port : Nat) : Prop where
  ne_nil : digits ≠ []
  length_le : digits.length ≤ maxDigits
  denotes : Denotes digits port
  range : 1 ≤ port ∧ port ≤ 65535

/-- The texts of an endpoint. A host starts with no bracket, and a bare one does not have the one
colon that would part it from a port. -/
inductive Written : List Char → Endpoint → Prop
  | address {host : List Char} (hhost : ']' ∉ host) :
    Written ('[' :: (host ++ [']'])) ⟨String.ofList host, none⟩
  | addressPort {host digits : List Char} {port : Nat} (hhost : ']' ∉ host)
    (hport : IsPort digits port) :
    Written ('[' :: (host ++ ']' :: ':' :: digits)) ⟨String.ofList host, some port⟩
  | host {host : List Char} (hhead : host.head? ≠ some '[') (hcount : host.count ':' ≠ 1) :
    Written host ⟨String.ofList host, none⟩
  | hostPort {host digits : List Char} {port : Nat} (hhead : host.head? ≠ some '[')
    (hhost : ':' ∉ host) (hport : IsPort digits port) :
    Written (host ++ ':' :: digits) ⟨String.ofList host, some port⟩

/-! ## Ports -/

theorem numberOf_eq_ok_iff {digits : List Char} {n : Nat} :
    numberOf digits = .ok n ↔ digits.length ≤ maxDigits ∧ Denotes digits n := by
  rw [← Text.Numeral.value?_eq_some_iff]
  simp only [numberOf]
  cases hvalue : Text.Numeral.value? digits with
  | none => split <;> simp
  | some m =>
    -- All characters are counted if they are all decimal digits.
    have hdecimal := (Text.Numeral.value?_eq_some_iff.mp hvalue).isDecimal
    have hall : digits.takeWhile Text.Numeral.isDecimal = digits :=
      List.takeWhile_eq_self_iff.mpr hdecimal
    rw [hall]
    by_cases hlength : maxDigits < digits.length
    · simp [hlength]
    · simp [hlength, Nat.le_of_not_lt hlength]

theorem portOf_eq_ok_iff {digits : List Char} {text : String} {port : Nat} :
    portOf digits text = .ok port ↔ IsPort digits port := by
  simp only [portOf]
  constructor
  · intro h
    split at h
    · cases h
    next hdigits =>
      split at h
      · cases h
      next n hnumber =>
        obtain ⟨hlength, hdenotes⟩ := numberOf_eq_ok_iff.mp hnumber
        split at h
        next hrange =>
          cases h
          refine ⟨?_, hlength, hdenotes, by omega⟩
          rintro rfl
          simp at hdigits
        · cases h
  · rintro ⟨hne, hlength, hdenotes, hrange⟩
    have hall : digits.all Text.Numeral.isDigit = true := by
      rw [List.all_eq_true]
      intro c hc
      simp [Text.Numeral.isDigit, hdenotes.isDecimal c hc]
    have hempty : (digits.isEmpty || !digits.all Text.Numeral.isDigit) = false := by
      simp [hne, hall]
    simp only [hempty, Bool.false_eq_true, if_false,
      numberOf_eq_ok_iff.mpr ⟨hlength, hdenotes⟩]
    rw [if_pos (by omega)]

theorem withPort_eq_ok_iff {host digits : List Char} {text : String} {endpoint : Endpoint} :
    withPort host digits text = .ok endpoint ↔
      ∃ port, IsPort digits port ∧ endpoint = ⟨String.ofList host, some port⟩ := by
  rw [withPort, map_eq_ok]
  constructor
  · rintro ⟨port, hport, rfl⟩
    exact ⟨port, portOf_eq_ok_iff.mp hport, rfl⟩
  · rintro ⟨port, hport, rfl⟩
    exact ⟨port, portOf_eq_ok_iff.mpr hport, rfl⟩

theorem IsPort.not_mem_colon {digits : List Char} {port : Nat} (h : IsPort digits port) :
    ':' ∉ digits := by
  intro hmem
  have hdecimal := h.denotes.isDecimal ':' hmem
  revert hdecimal
  decide +kernel

theorem isPort_toDigits {port : Nat} (h : 1 ≤ port ∧ port ≤ 65535) :
    IsPort (Nat.toDigits 10 port) port where
  ne_nil := Nat.toDigits_ne_nil
  length_le := by
    have hlength : (Nat.toDigits 10 port).length ≤ 5 := by
      rw [Nat.length_toDigits_le_iff (by decide) (by decide)]
      omega
    exact Nat.le_trans hlength (by decide)
  denotes := denotes_toDigits port
  range := h

/-! ## Hosts -/

theorem cut_cons (mark c : Char) (chars : List Char) : cut mark (c :: chars) =
    if c = mark then some ([], chars)
    else (cut mark chars).map fun parts ↦ (c :: parts.1, parts.2) := by
  by_cases h : c = mark
  · simp [cut, h]
  · simp only [cut, List.dropWhile_cons, List.takeWhile_cons, h, ne_eq, not_false_eq_true,
      decide_true, if_true, if_false]
    cases chars.dropWhile (· ≠ mark) <;> rfl

theorem cut_eq_none_iff {mark : Char} {chars : List Char} :
    cut mark chars = none ↔ mark ∉ chars := by
  induction chars with
  | nil => simp [cut]
  | cons c chars ih =>
    rw [cut_cons]
    by_cases h : c = mark
    · simp [h]
    · simp [h, ih, Ne.symm h]

theorem cut_eq_some_iff {mark : Char} {chars before after : List Char} :
    cut mark chars = some (before, after) ↔ chars = before ++ mark :: after ∧ mark ∉ before := by
  constructor
  · intro h
    induction chars generalizing before with
    | nil => simp [cut] at h
    | cons c chars ih =>
      rw [cut_cons] at h
      split at h
      next hc =>
        cases h
        simp [hc]
      next hc =>
        obtain ⟨⟨before, after⟩, hcut, hparts⟩ := Option.map_eq_some_iff.mp h
        cases hparts
        obtain ⟨rfl, hbefore⟩ := ih hcut
        exact ⟨rfl, by simp [Ne.symm hc, hbefore]⟩
  · rintro ⟨rfl, hbefore⟩
    induction before with
    | nil => simp [cut_cons]
    | cons c before ih =>
      rw [List.mem_cons, not_or] at hbefore
      rw [List.cons_append, cut_cons, if_neg (Ne.symm hbefore.1), ih hbefore.2]
      rfl

/-! ## Endpoints -/

variable {text : String} {endpoint : Endpoint}

theorem head?_hostPort {host digits : List Char} :
    (host ++ ':' :: digits).head? ≠ some '[' ↔ host.head? ≠ some '[' := by
  cases host <;> simp

theorem bracketed_eq_ok_iff {chars : List Char} :
    bracketed chars text = .ok endpoint ↔ Written ('[' :: chars) endpoint := by
  constructor
  · intro h
    unfold bracketed at h
    split at h
    · cases h
    next host hcut =>
      cases h
      obtain ⟨rfl, hhost⟩ := cut_eq_some_iff.mp hcut
      exact .address hhost
    next host c digits hcut =>
      obtain ⟨rfl, hhost⟩ := cut_eq_some_iff.mp hcut
      split at h
      next hcolon =>
        subst hcolon
        obtain ⟨port, hport, rfl⟩ := withPort_eq_ok_iff.mp h
        exact .addressPort hhost hport
      · cases h
  · intro h
    generalize hchars : '[' :: chars = whole at h
    cases h with
    | @address host hhost =>
      cases hchars
      simp only [bracketed, cut_eq_some_iff.mpr ⟨rfl, hhost⟩]
    | @addressPort host digits port hhost hport =>
      cases hchars
      simp only [bracketed, cut_eq_some_iff.mpr ⟨rfl, hhost⟩, if_true]
      exact withPort_eq_ok_iff.mpr ⟨port, hport, rfl⟩
    | host hhead _ => simp [← hchars] at hhead
    | hostPort hhead _ _ =>
      rw [← head?_hostPort, ← hchars] at hhead
      simp at hhead

theorem ofText_of_bracket {chars : List Char} (h : text.toList = '[' :: chars) :
    ofText text = bracketed chars text := by
  rw [ofText, h]
  rfl

theorem ofText_of_no_bracket (h : text.toList.head? ≠ some '[') :
    ofText text = if text.toList.count ':' = 1 then
        match cut ':' text.toList with
        | some (host, digits) => withPort host digits text
        | none => .ok ⟨text, none⟩
      else .ok ⟨text, none⟩ := by
  unfold ofText ofChars
  split
  next hchars => simp [hchars] at h
  · rfl

/-- One colon in all parts a host from its port. -/
theorem ofText_of_colon {host digits : List Char} (hhead : host.head? ≠ some '[')
    (hhost : ':' ∉ host) (hdigits : ':' ∉ digits) (htext : text.toList = host ++ ':' :: digits) :
    ofText text = withPort host digits text := by
  have hhead' : text.toList.head? ≠ some '[' := by
    rw [htext]
    exact head?_hostPort.mpr hhead
  have hcount : text.toList.count ':' = 1 := by
    rw [htext, List.count_append, List.count_cons_self, List.count_eq_zero.mpr hhost,
      List.count_eq_zero.mpr hdigits]
  have hcut : cut ':' text.toList = some (host, digits) := cut_eq_some_iff.mpr ⟨htext, hhost⟩
  rw [ofText_of_no_bracket hhead', if_pos hcount, hcut]

/-- An endpoint is read from the texts of its grammar and from no others. -/
theorem ofText_eq_ok_iff : ofText text = .ok endpoint ↔ Written text.toList endpoint := by
  by_cases hhead : text.toList.head? = some '['
  · obtain ⟨chars, hchars⟩ := List.head?_eq_some_iff.mp hhead
    rw [ofText_of_bracket hchars, hchars, bracketed_eq_ok_iff]
  constructor
  · intro h
    rw [ofText_of_no_bracket hhead] at h
    split at h
    next hcount =>
      split at h
      next host digits hcut =>
        obtain ⟨htext, hhost⟩ := cut_eq_some_iff.mp hcut
        obtain ⟨port, hport, rfl⟩ := withPort_eq_ok_iff.mp h
        rw [htext] at hhead ⊢
        exact .hostPort (head?_hostPort.mp hhead) hhost hport
      next hcut =>
        have hmem : ':' ∈ text.toList := List.count_pos_iff.mp (by omega)
        exact absurd hmem (cut_eq_none_iff.mp hcut)
    next hcount =>
      cases h
      have hwritten := Written.host hhead hcount
      rwa [String.ofList_toList] at hwritten
  · intro h
    generalize htext : text.toList = whole at h
    cases h with
    | address _ => simp [htext] at hhead
    | addressPort _ _ => simp [htext] at hhead
    | host _ hcount =>
      rw [← htext] at hcount
      rw [ofText_of_no_bracket hhead, if_neg hcount, ← htext, String.ofList_toList]
    | hostPort hhead hhost hport =>
      rw [ofText_of_colon hhead hhost hport.not_mem_colon htext]
      exact withPort_eq_ok_iff.mpr ⟨_, hport, rfl⟩

theorem Written.port_range {chars : List Char} (h : Written chars endpoint) :
    ∀ n ∈ endpoint.port, 1 ≤ n ∧ n ≤ 65535 := by
  cases h with
  | address _ => simp
  | host _ _ => simp
  | addressPort _ hport => simpa using hport.range
  | hostPort _ _ hport => simpa using hport.range

/-- The port of an endpoint is in range. -/
theorem port_of_ofText (h : ofText text = .ok endpoint) :
    ∀ n ∈ endpoint.port, 1 ≤ n ∧ n ≤ 65535 :=
  (ofText_eq_ok_iff.mp h).port_range

theorem exists_fault_iff :
    (∃ fault, ofText text = .error fault) ↔ ∀ endpoint, ¬Written text.toList endpoint := by
  simp only [← ofText_eq_ok_iff]
  cases ofText text <;> simp

/-! ## Texts without and with a port -/

variable {host : String} {port : Nat}

theorem written_none_iff : Written text.toList ⟨host, none⟩ ↔
    text = "[" ++ host ++ "]" ∧ ']' ∉ host.toList ∨
      text.toList.head? ≠ some '[' ∧ text.toList.count ':' ≠ 1 ∧ host = text := by
  constructor
  · intro h
    generalize htext : text.toList = whole at h
    generalize hendpoint : (⟨host, none⟩ : Endpoint) = endpoint at h
    cases h with
    | address hhost =>
      cases hendpoint
      refine Or.inl ⟨String.toList_inj.mp ?_, by simpa using hhost⟩
      simp [htext]
    | host hhead hcount =>
      cases hendpoint
      exact Or.inr ⟨hhead, hcount, by rw [← htext, String.ofList_toList]⟩
    | addressPort _ _ => cases hendpoint
    | hostPort _ _ _ => cases hendpoint
  · rintro (⟨rfl, hhost⟩ | ⟨hhead, hcount, rfl⟩)
    · simpa using Written.address hhost
    · simpa using Written.host hhead hcount

theorem written_some_iff : Written text.toList ⟨host, some port⟩ ↔
    ∃ digits : String, IsPort digits.toList port ∧
      (text = "[" ++ host ++ "]:" ++ digits ∧ ']' ∉ host.toList ∨
        text = host ++ ":" ++ digits ∧ ':' ∉ host.toList ∧ host.toList.head? ≠ some '[') := by
  constructor
  · intro h
    generalize htext : text.toList = whole at h
    generalize hendpoint : (⟨host, some port⟩ : Endpoint) = endpoint at h
    cases h with
    | address _ => cases hendpoint
    | host _ _ => cases hendpoint
    | @addressPort _ digits _ hhost hport =>
      cases hendpoint
      refine ⟨String.ofList digits, by simpa using hport, Or.inl ⟨?_, by simpa using hhost⟩⟩
      simp [← String.toList_inj, htext]
    | @hostPort _ digits _ hhead hhost hport =>
      cases hendpoint
      refine ⟨String.ofList digits, by simpa using hport, Or.inr ⟨?_, by simpa using hhost, ?_⟩⟩
      · simp [← String.toList_inj, htext]
      · simpa using hhead
  · rintro ⟨digits, hport, ⟨rfl, hhost⟩ | ⟨rfl, hhost, hhead⟩⟩
    · simpa using Written.addressPort hhost hport
    · simpa using Written.hostPort hhead hhost hport

/-! ## Reading back -/

theorem ofText_addressPort (hhost : ']' ∉ host.toList) (hport : 1 ≤ port ∧ port ≤ 65535) :
    ofText ("[" ++ host ++ "]:" ++ Text.Numeral.ofNat port) = .ok ⟨host, some port⟩ := by
  rw [ofText_eq_ok_iff, written_some_iff]
  refine ⟨Text.Numeral.ofNat port, ?_, Or.inl ⟨rfl, hhost⟩⟩
  rw [Text.Numeral.ofNat, String.toList_ofList]
  exact isPort_toDigits hport

theorem ofText_hostPort (hhost : ':' ∉ host.toList) (hhead : host.toList.head? ≠ some '[')
    (hport : 1 ≤ port ∧ port ≤ 65535) :
    ofText (host ++ ":" ++ Text.Numeral.ofNat port) = .ok ⟨host, some port⟩ := by
  rw [ofText_eq_ok_iff, written_some_iff]
  refine ⟨Text.Numeral.ofNat port, ?_, Or.inr ⟨rfl, hhost, hhead⟩⟩
  rw [Text.Numeral.ofNat, String.toList_ofList]
  exact isPort_toDigits hport

/-- The address of a connection is read back as its host and its port. -/
theorem ofText_address {block : Block.Redis} (h : block.IsResolved)
    (hhost : ':' ∉ block.host.toList) (hhead : block.host.toList.head? ≠ some '[') :
    ∃ port : Nat, (port : Int) = block.port ∧
      ofText block.address = .ok ⟨block.host, some port⟩ := by
  have hpos := h.port_pos
  have hle := h.port_le
  obtain ⟨port, hport⟩ := Int.eq_ofNat_of_zero_le (a := block.port) (by omega)
  refine ⟨port, hport.symm, ?_⟩
  rw [Block.Redis.address, hport]
  exact ofText_hostPort hhost hhead (by omega)

/-- Which endpoint a text is read as, and that no other text is read. A port is a numeral of decimal
digits, in which leading zeros count. What is written as a host with a port is read back, and so is
the address of a connection whose host has no colon and no bracket in front. -/
theorem ofText_grammar (text : String) :
    (∀ host, ofText text = .ok ⟨host, none⟩ ↔
        text = "[" ++ host ++ "]" ∧ ']' ∉ host.toList ∨
          text.toList.head? ≠ some '[' ∧ text.toList.count ':' ≠ 1 ∧ host = text) ∧
      (∀ host port, ofText text = .ok ⟨host, some port⟩ ↔
        ∃ digits : String, IsPort digits.toList port ∧
          (text = "[" ++ host ++ "]:" ++ digits ∧ ']' ∉ host.toList ∨
            text = host ++ ":" ++ digits ∧ ':' ∉ host.toList ∧ host.toList.head? ≠ some '[')) ∧
      ((∃ fault, ofText text = .error fault) ↔ ∀ endpoint, ¬Written text.toList endpoint) ∧
      (∀ host port, 1 ≤ port ∧ port ≤ 65535 →
        (']' ∉ host.toList →
          ofText ("[" ++ host ++ "]:" ++ Text.Numeral.ofNat port) = .ok ⟨host, some port⟩) ∧
        (':' ∉ host.toList → host.toList.head? ≠ some '[' →
          ofText (host ++ ":" ++ Text.Numeral.ofNat port) = .ok ⟨host, some port⟩)) ∧
      ∀ block : Block.Redis, block.IsResolved → ':' ∉ block.host.toList →
        block.host.toList.head? ≠ some '[' →
        ∃ port : Nat, (port : Int) = block.port ∧
          ofText block.address = .ok ⟨block.host, some port⟩ := by
  refine ⟨?_, ?_, exists_fault_iff, ?_, fun _ ↦ ofText_address⟩
  · intro host
    rw [ofText_eq_ok_iff, written_none_iff]
  · intro host port
    rw [ofText_eq_ok_iff, written_some_iff]
  · intro host port hport
    exact ⟨fun hhost ↦ ofText_addressPort hhost hport,
      fun hhost hhead ↦ ofText_hostPort hhost hhead hport⟩

/-- The digits are those of another script, with a zero in front. -/
theorem ofText_grammar_sample :
    IsPort "٠٣٣٠٦".toList 3306 ∧ ofText "[fe80::1]:٠٣٣٠٦" = .ok ⟨"fe80::1", some 3306⟩ ∧
      ofText "localhost:6379" = .ok ⟨"localhost", some 6379⟩ := by
  have hport : IsPort "٠٣٣٠٦".toList 3306 :=
    ⟨by decide, by decide, Text.Numeral.value?_eq_some_iff.mp (by decide +kernel), by decide⟩
  obtain ⟨-, hread, -⟩ := ofText_grammar "[fe80::1]:٠٣٣٠٦"
  obtain ⟨-, -, -, hback, -⟩ := ofText_grammar "localhost:6379"
  refine ⟨hport, (hread "fe80::1" 3306).mpr ⟨_, hport, Or.inl ⟨by decide, by decide⟩⟩, ?_⟩
  have hlocal := (hback "localhost" 6379 (by decide)).2 (by decide) (by decide)
  have htext : "localhost" ++ ":" ++ Text.Numeral.ofNat 6379 = "localhost:6379" := by
    decide +kernel
  rwa [htext] at hlocal

end ServiceBoot.Endpoint
