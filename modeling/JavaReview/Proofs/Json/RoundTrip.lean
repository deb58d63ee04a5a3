import JavaReview.Json.Read
import JavaReview.Json.Write
import JavaReview.Proofs.Text.Decimal

/-!
Written values are read back. A text is found again from its escapes (`Json.readText_written`) and a number
from its digits (`Json.readNumber_decimalChars`). The compact and the indented form differ in their blanks
alone, which a `Json.Layout` says, so that values are read back from both by one argument over the nesting
of brackets (`Json.Within.readsBack`).
-/

namespace JavaReview.Json

open Text.Unicode (hexDigit?)

/-! ## Texts -/

theorem hexDigit?_digitChar {d : Nat} (h : d < 16) : hexDigit? (Nat.digitChar d) = some d := by
  have hall : ∀ d : Fin 16, hexDigit? (Nat.digitChar d) = some (d : Nat) := by decide
  exact hall ⟨d, h⟩

theorem exists_hexDigits_four {n : Nat} (h : n < 0x10000) :
    ∃ a b c d, Text.hexDigits 4 n = [a, b, c, d] ∧ hex4? a b c d = some n := by
  refine ⟨_, _, _, _, rfl, ?_⟩
  have hdigit (m : Nat) : hexDigit? (Nat.digitChar (m % 16)) = some (m % 16) :=
    hexDigit?_digitChar (Nat.mod_lt m (by decide))
  simp only [hex4?, hdigit, Option.bind_eq_bind, Option.bind_some, Option.pure_def, Option.some.injEq]
  omega

theorem readUnits_unicodeEscape {n : Nat} (h : n < 0x10000) (rest : List Char) :
    readUnits (unicodeEscape n ++ rest) = (readUnits rest).map fun p => (n :: p.1, p.2) := by
  obtain ⟨a, b, c, d, hdigits, hvalue⟩ := exists_hexDigits_four h
  rw [unicodeEscape, hdigits]
  simp only [List.cons_append, List.nil_append, readUnits, hvalue]

theorem readUnits_short {e : Char} {n : Nat} (h : shortEscape? e = some n) (rest : List Char) :
    readUnits ('\\' :: e :: rest) = (readUnits rest).map fun p => (n :: p.1, p.2) := by
  have hu : e ≠ 'u' := by
    rintro rfl
    cases h
  simp [readUnits, hu, h]

theorem readUnits_plain {c : Char} (hquote : c ≠ '"') (hslash : c ≠ '\\') (hcode : ¬ c.toNat < 0x20)
    (rest : List Char) :
    readUnits (c :: rest) = (readUnits rest).map fun p => (c.toNat :: p.1, p.2) := by
  simp [readUnits, hslash, hcode]

/-- The ways in which a character is written. -/
inductive WrittenAs (c : Char) : List Char → Prop
  | short {e : Char} : shortEscape? e = some c.toNat → WrittenAs c ['\\', e]
  | unicode : c.toNat < 0x10000 → WrittenAs c (unicodeEscape c.toNat)
  | plain : c ≠ '"' → c ≠ '\\' → ¬ c.toNat < 0x20 → WrittenAs c [c]

theorem writtenAs_escapeChar (c : Char) : WrittenAs c (escapeChar c) := by
  unfold escapeChar
  by_cases hquote : c = '"'
  · subst hquote
    exact .short rfl
  by_cases hslash : c = '\\'
  · subst hslash
    exact .short rfl
  simp only [hquote, hslash, if_false]
  split
  next h => exact .short (h ▸ rfl)
  split
  next h => exact .short (h ▸ rfl)
  split
  next h => exact .short (h ▸ rfl)
  split
  next h => exact .short (h ▸ rfl)
  split
  next h => exact .short (h ▸ rfl)
  split
  next h =>
    refine .unicode ?_
    simp only [Bool.or_eq_true, decide_eq_true_eq] at h
    rcases h with ((((h | rfl) | rfl) | rfl) | h) | h
    · omega
    all_goals first | decide | omega
  next h =>
    refine .plain hquote hslash ?_
    simp only [Bool.or_eq_true, decide_eq_true_eq, not_or] at h
    exact h.1.1.1.1.1

/-- A character is read as its own code, whichever way it is written. -/
theorem WrittenAs.readUnits_append {c : Char} {s : List Char} (h : WrittenAs c s) (rest : List Char) :
    readUnits (s ++ rest) = (readUnits rest).map fun p => (c.toNat :: p.1, p.2) := by
  cases h with
  | short h => exact readUnits_short h rest
  | unicode h => exact readUnits_unicodeEscape h rest
  | plain hquote hslash hcode => exact readUnits_plain hquote hslash hcode rest

theorem isHalf_toNat (c : Char) : isHighHalf c.toNat = false ∧ isLowHalf c.toNat = false := by
  have hvalid : c.toNat < 0xD800 ∨ 0xDFFF < c.toNat ∧ c.toNat < 0x110000 := c.valid
  simp only [isHighHalf, isLowHalf, Bool.and_eq_false_iff, decide_eq_false_iff_not]
  omega

theorem charsOfUnits_map_toNat (cs : List Char) : charsOfUnits (cs.map Char.toNat) = cs := by
  induction cs with
  | nil => rfl
  | cons c cs ih =>
    obtain ⟨hhigh, hlow⟩ := isHalf_toNat c
    cases cs with
    | nil => simp [charsOfUnits, hhigh, hlow]
    | cons d cs =>
      rw [List.map_cons] at ih
      rw [List.map_cons, List.map_cons]
      simp [charsOfUnits, hhigh, hlow, ih]

theorem readUnits_flatMap_escapeChar (cs rest : List Char) :
    readUnits (cs.flatMap escapeChar ++ '"' :: rest) = .ok (cs.map Char.toNat, rest) := by
  induction cs with
  | nil => simp [readUnits]
  | cons c cs ih =>
    rw [List.flatMap_cons, List.append_assoc, (writtenAs_escapeChar c).readUnits_append, ih]
    rfl

theorem readText_written (s : String) (rest : List Char) :
    readText (s.toList.flatMap escapeChar ++ '"' :: rest) = .ok (s, rest) := by
  rw [readText, readUnits_flatMap_escapeChar]
  show Except.ok (String.ofList (charsOfUnits (s.toList.map Char.toNat)), rest) = _
  rw [charsOfUnits_map_toNat, String.ofList_toList]

/-! ## Numbers -/

/-- A text that does not go on with a number. -/
def EndsNumber (s : List Char) : Prop :=
  ∀ c ∈ s.head?, c.isDigit = false ∧ c ≠ '.' ∧ c ≠ 'e' ∧ c ≠ 'E'

theorem endsNumber_nil : EndsNumber [] := by
  intro c hc
  cases hc

theorem endsNumber_cons {c : Char} {s : List Char}
    (h : c.isDigit = false ∧ c ≠ '.' ∧ c ≠ 'e' ∧ c ≠ 'E') : EndsNumber (c :: s) := by
  intro d hd
  cases hd
  exact h

theorem readDigits_append {ds rest : List Char} (hne : ds ≠ []) (hds : ∀ c ∈ ds, c.isDigit = true)
    (hrest : EndsNumber rest) : readDigits (ds ++ rest) = .ok (ds, rest) := by
  have hstop : rest.takeWhile Char.isDigit = [] ∧ rest.dropWhile Char.isDigit = rest := by
    cases rest with
    | nil => exact ⟨rfl, rfl⟩
    | cons c rest =>
      have hc := (hrest c rfl).1
      exact ⟨by simp [hc], by simp [hc]⟩
  rw [readDigits, List.takeWhile_append_of_pos hds, List.dropWhile_append_of_pos hds, hstop.1, hstop.2,
    List.append_nil]
  cases ds with
  | nil => exact absurd rfl hne
  | cons d ds => rfl

theorem readFraction_of_ends {rest : List Char} (h : EndsNumber rest) :
    readFraction rest = .ok ([], rest) := by
  cases rest with
  | nil => rfl
  | cons c rest =>
    have hc := (h c rfl).2.1
    simp [readFraction, hc]

theorem readExponent_of_ends {rest : List Char} (h : EndsNumber rest) :
    readExponent rest = .ok ([], rest) := by
  cases rest with
  | nil => rfl
  | cons c rest =>
    obtain ⟨-, -, he, hE⟩ := h c rfl
    simp [readExponent, he, hE]

/-- The digits of a positive number do not start with a zero. -/
theorem exists_toDigits_cons {n : Nat} (h : 0 < n) :
    ∃ d ds, Nat.toDigits 10 n = d :: ds ∧ d ≠ '0' := by
  induction n using Nat.strongRecOn with
  | _ n ih =>
    rw [Nat.toDigits_eq_if (by decide)]
    split
    next hlt => exact ⟨n.digitChar, [], rfl, by simpa using Nat.ne_of_gt h⟩
    next hge =>
      obtain ⟨d, ds, hd, hne⟩ := ih (n / 10) (by omega) (by omega)
      exact ⟨d, ds ++ [(n % 10).digitChar], by rw [hd]; rfl, hne⟩

theorem digitsValue_toDigits (n : Nat) : digitsValue (Nat.toDigits 10 n) = n :=
  Nat.ofDigitChars_ten_toDigits

theorem readNumber_decimalChars (n : Int) {rest : List Char} (h : EndsNumber rest) :
    readNumber (decimalChars n ++ rest) = .ok (.int n, rest) := by
  have hfraction := readFraction_of_ends h
  have hexponent := readExponent_of_ends h
  by_cases hzero : n = 0
  · subst hzero
    simp [decimalChars, readNumber, hfraction, hexponent, bind, Except.bind, pure, Except.pure,
      digitsValue]
  have hdigits : ∀ c ∈ Nat.toDigits 10 n.natAbs, c.isDigit = true := fun c hc =>
    Nat.isDigit_of_mem_toDigits (by decide) (by decide) hc
  have hread := readDigits_append Nat.toDigits_ne_nil hdigits h
  have hvalue := digitsValue_toDigits n.natAbs
  obtain ⟨d, ds, hd, hne⟩ := exists_toDigits_cons (n := n.natAbs) (by omega)
  have hminus : d ≠ '-' := by
    rintro rfl
    exact notMem_toDigits (by decide) n.natAbs (hd ▸ List.mem_cons_self)
  rw [hd] at hvalue
  rw [hd, List.cons_append] at hread
  unfold decimalChars
  generalize hsize : n.natAbs = size at *
  split
  · simp [readNumber, hd, hne, hread, hfraction, hexponent, hvalue, bind, Except.bind, pure,
      Except.pure]
    omega
  · simp [readNumber, hd, hne, hminus, hread, hfraction, hexponent, hvalue, bind, Except.bind, pure,
      Except.pure]
    omega

/-! ## Layouts -/

/-- A text of blanks alone. -/
def Blank (s : List Char) : Prop := ∀ c ∈ s, isGap c = true

theorem skipGap_append {gap : List Char} (h : Blank gap) (s : List Char) :
    skipGap (gap ++ s) = skipGap s :=
  List.dropWhile_append_of_pos h

theorem skipGap_cons {c : Char} (h : isGap c = false) (s : List Char) : skipGap (c :: s) = c :: s :=
  List.dropWhile_cons_of_neg (by simp [h])

theorem Blank.endsNumber {gap : List Char} (h : Blank gap) {s : List Char} (hs : EndsNumber s) :
    EndsNumber (gap ++ s) := by
  cases gap with
  | nil => exact hs
  | cons c gap =>
    have hc : isGap c = true := h c List.mem_cons_self
    simp only [isGap, Bool.or_eq_true, beq_iff_eq] at hc
    refine endsNumber_cons ?_
    rcases hc with ((rfl | rfl) | rfl) | rfl <;> decide

/-- The blanks of a written value: those before an item, a field or a closing bracket at some depth, and
those after a colon. -/
structure Layout where
  line : Nat → List Char
  gap : List Char
  blank_line : ∀ depth, Blank (line depth)
  blank_gap : Blank gap

/-- No blanks. -/
def Layout.compact : Layout where
  line _ := []
  gap := []
  blank_line _ _ h := nomatch h
  blank_gap _ h := nomatch h

/-- A line for each item and field. -/
def Layout.indented : Layout where
  line := newline
  gap := [' ']
  blank_line depth c hc := by
    rcases List.mem_cons.mp hc with rfl | hc
    · rfl
    · rw [List.eq_of_mem_replicate hc]
      rfl
  blank_gap c hc := by
    rw [List.mem_singleton.mp hc]
    rfl

@[simp] theorem Layout.line_compact (depth : Nat) : compact.line depth = [] := rfl

@[simp] theorem Layout.gap_compact : compact.gap = [] := rfl

@[simp] theorem Layout.line_indented (depth : Nat) : indented.line depth = newline depth := rfl

@[simp] theorem Layout.gap_indented : indented.gap = [' '] := rfl

mutual

/-- A value written in a layout. -/
def writeWith (l : Layout) (depth : Nat) : Json → List Char
  | .arr [] => ['[', ']']
  | .arr (v :: r) =>
    '[' :: l.line (depth + 1) ++ writeItemsWith l (depth + 1) (v :: r) ++ l.line depth ++ [']']
  | .obj [] => ['\x7b', '\x7d']
  | .obj (f :: r) =>
    '\x7b' :: l.line (depth + 1) ++ writeFieldsWith l (depth + 1) (f :: r) ++ l.line depth ++ ['\x7d']
  | .null => write .null
  | .bool b => write (.bool b)
  | .int n => write (.int n)
  | .real t => write (.real t)
  | .str s => write (.str s)

/-- The items of an array. -/
def writeItemsWith (l : Layout) (depth : Nat) : List Json → List Char
  | [] => []
  | [v] => writeWith l depth v
  | v :: w :: r => writeWith l depth v ++ ',' :: l.line depth ++ writeItemsWith l depth (w :: r)

/-- The fields of an object. -/
def writeFieldsWith (l : Layout) (depth : Nat) : List (String × Json) → List Char
  | [] => []
  | [(k, v)] => writeText k ++ ':' :: l.gap ++ writeWith l depth v
  | (k, v) :: f :: r =>
    writeText k ++ ':' :: l.gap ++ writeWith l depth v ++ ',' :: l.line depth ++
      writeFieldsWith l depth (f :: r)

end

mutual

theorem writeWith_compact (depth : Nat) (v : Json) : writeWith .compact depth v = write v := by
  cases v with
  | arr items =>
    cases items with
    | nil => rfl
    | cons v r => simp [writeWith, write, writeItemsWith_compact]
  | obj fields =>
    cases fields with
    | nil => rfl
    | cons f r => simp [writeWith, write, writeFieldsWith_compact]
  | _ => rfl

theorem writeItemsWith_compact (depth : Nat) (items : List Json) :
    writeItemsWith .compact depth items = writeItems items := by
  match items with
  | [] => rfl
  | [v] => exact writeWith_compact depth v
  | v :: w :: r =>
    rw [writeItemsWith, writeItems, writeWith_compact, writeItemsWith_compact depth (w :: r)]
    simp

theorem writeFieldsWith_compact (depth : Nat) (fields : List (String × Json)) :
    writeFieldsWith .compact depth fields = writeFields fields := by
  match fields with
  | [] => rfl
  | [(k, v)] =>
    rw [writeFieldsWith, writeFields, writeWith_compact]
    simp
  | (k, v) :: f :: r =>
    rw [writeFieldsWith, writeFields, writeWith_compact, writeFieldsWith_compact depth (f :: r)]
    simp

end

mutual

theorem writeWith_indented (depth : Nat) (v : Json) :
    writeWith .indented depth v = writeIndented depth v := by
  cases v with
  | arr items =>
    cases items with
    | nil => rfl
    | cons v r => simp [writeWith, writeIndented, writeItemsWith_indented]
  | obj fields =>
    cases fields with
    | nil => rfl
    | cons f r => simp [writeWith, writeIndented, writeFieldsWith_indented]
  | _ => rfl

theorem writeItemsWith_indented (depth : Nat) (items : List Json) :
    writeItemsWith .indented depth items = writeIndentedItems depth items := by
  match items with
  | [] => rfl
  | [v] => exact writeWith_indented depth v
  | v :: w :: r =>
    rw [writeItemsWith, writeIndentedItems, writeWith_indented, writeItemsWith_indented depth (w :: r)]
    simp

theorem writeFieldsWith_indented (depth : Nat) (fields : List (String × Json)) :
    writeFieldsWith .indented depth fields = writeIndentedFields depth fields := by
  match fields with
  | [] => rfl
  | [(k, v)] =>
    rw [writeFieldsWith, writeIndentedFields, writeWith_indented]
    simp
  | (k, v) :: f :: r =>
    rw [writeFieldsWith, writeIndentedFields, writeWith_indented,
      writeFieldsWith_indented depth (f :: r)]
    simp

end

/-! ## Values -/

theorem readValue_append {gap : List Char} (h : Blank gap) (fuel depth : Nat) (s : List Char) :
    readValue fuel depth (gap ++ s) = readValue fuel depth s := by
  cases fuel with
  | zero => rfl
  | succ fuel => rw [readValue, readValue, skipGap_append h]

theorem readItems_append {gap : List Char} (h : Blank gap) (fuel depth : Nat) (s : List Char) :
    readItems fuel depth (gap ++ s) = readItems fuel depth s := by
  cases fuel with
  | zero => rfl
  | succ fuel => rw [readItems, readItems, readValue_append h]

theorem readFields_append {gap : List Char} (h : Blank gap) (fuel depth : Nat) (s : List Char) :
    readFields fuel depth (gap ++ s) = readFields fuel depth s := by
  cases fuel with
  | zero => rfl
  | succ fuel => rw [readFields, readFields, skipGap_append h]

/-- A value that is read from its text in a layout, whatever follows that does not go on with a number. -/
def ReadsBack (l : Layout) (place depth : Nat) (v : Json) : Prop :=
  ∀ fuel rest, 2 * (writeWith l place v).length ≤ fuel → EndsNumber rest →
    readValue fuel depth (writeWith l place v ++ rest) = .ok (v, rest)

section

variable {l : Layout} {place depth : Nat}

theorem exists_decimalChars_cons (n : Int) :
    ∃ c r, decimalChars n = c :: r ∧ (c = '-' ∨ c.isDigit = true) := by
  unfold decimalChars
  split
  · exact ⟨'-', _, rfl, .inl rfl⟩
  · cases hd : Nat.toDigits 10 n.natAbs with
    | nil => exact absurd hd Nat.toDigits_ne_nil
    | cons d ds =>
      refine ⟨d, ds, rfl, .inr ?_⟩
      exact Nat.isDigit_of_mem_toDigits (by decide) (by decide) (hd ▸ List.mem_cons_self)

theorem ne_of_startsNumber {c d : Char} (hc : c = '-' ∨ c.isDigit = true) (hminus : d ≠ '-')
    (hdigit : d.isDigit = false) : c ≠ d := by
  rintro rfl
  rcases hc with rfl | hc
  · exact hminus rfl
  · rw [hdigit] at hc
    cases hc

theorem isGap_of_startsNumber {c : Char} (hc : c = '-' ∨ c.isDigit = true) : isGap c = false := by
  rw [← Bool.not_eq_true]
  simp only [isGap, Bool.or_eq_true, beq_iff_eq]
  rintro (((h | h) | h) | h) <;> exact ne_of_startsNumber hc (by decide) (by decide) h

theorem readValue_number {c : Char} (hc : c = '-' ∨ c.isDigit = true) (fuel depth : Nat)
    (s : List Char) : readValue (fuel + 1) depth (c :: s) = readNumber (c :: s) := by
  have hne {d : Char} := ne_of_startsNumber (d := d) hc
  simp [readValue, skipGap_cons (isGap_of_startsNumber hc), hne (d := '"') (by decide) (by decide),
    hne (d := '[') (by decide) (by decide), hne (d := '\x7b') (by decide) (by decide),
    hne (d := 'n') (by decide) (by decide), hne (d := 't') (by decide) (by decide),
    hne (d := 'f') (by decide) (by decide), hc]

/-- A text whose first character starts a value. -/
def StartsValue (s : List Char) : Prop := ∃ c r, s = c :: r ∧ isGap c = false ∧ c ≠ ']'

theorem startsValue_writeWith {v : Json} (h : ∀ t, v ≠ .real t) (l : Layout) (place : Nat) :
    StartsValue (writeWith l place v) := by
  cases v with
  | null => exact ⟨_, _, rfl, rfl, by decide⟩
  | bool b => cases b <;> exact ⟨_, _, rfl, rfl, by decide⟩
  | int n =>
    obtain ⟨c, r, hcr, hc⟩ := exists_decimalChars_cons n
    exact ⟨c, r, hcr, isGap_of_startsNumber hc, ne_of_startsNumber hc (by decide) (by decide)⟩
  | real t => exact absurd rfl (h t)
  | str s => exact ⟨_, _, rfl, rfl, by decide⟩
  | arr items => cases items <;> exact ⟨_, _, rfl, rfl, by decide⟩
  | obj fields => cases fields <;> exact ⟨_, _, rfl, rfl, by decide⟩

theorem ReadsBack.of_succ {v : Json} (hv : ∀ t, v ≠ .real t)
    (h : ∀ fuel rest, 2 * (writeWith l place v).length ≤ fuel + 1 → EndsNumber rest →
      readValue (fuel + 1) depth (writeWith l place v ++ rest) = .ok (v, rest)) :
    ReadsBack l place depth v := by
  intro fuel rest hfuel hrest
  obtain ⟨c, r, hcr, -⟩ := startsValue_writeWith hv l place
  cases fuel with
  | zero => simp [hcr] at hfuel
  | succ fuel => exact h fuel rest hfuel hrest

theorem readsBack_null : ReadsBack l place depth .null := by
  refine .of_succ (by simp) fun fuel rest _ _ => ?_
  simp [writeWith, write, readValue, skipGap_cons, isGap, readWord]

theorem readsBack_bool (b : Bool) : ReadsBack l place depth (.bool b) := by
  refine .of_succ (by simp) fun fuel rest _ _ => ?_
  cases b <;> simp [writeWith, write, readValue, skipGap_cons, isGap, readWord]

theorem readsBack_str (s : String) : ReadsBack l place depth (.str s) := by
  refine .of_succ (by simp) fun fuel rest _ _ => ?_
  simp [writeWith, write, writeText, readValue, skipGap_cons, isGap, readText_written, Except.map]

theorem readsBack_int (n : Int) : ReadsBack l place depth (.int n) := by
  refine .of_succ (by simp) fun fuel rest _ hrest => ?_
  obtain ⟨c, r, hcr, hc⟩ := exists_decimalChars_cons n
  show readValue (fuel + 1) depth (decimalChars n ++ rest) = _
  rw [hcr, List.cons_append, readValue_number hc, ← List.cons_append, ← hcr,
    readNumber_decimalChars n hrest]

theorem readItems_writeItemsWith {items : List Json} (hne : items ≠ [])
    (h : ∀ v ∈ items, ReadsBack l place depth v) {gap : List Char} (hgap : Blank gap) (rest : List Char)
    {fuel : Nat} (hfuel : 2 * (writeItemsWith l place items).length + 1 ≤ fuel) :
    readItems fuel depth (writeItemsWith l place items ++ (gap ++ ']' :: rest)) = .ok (items, rest) := by
  induction items generalizing fuel with
  | nil => exact absurd rfl hne
  | cons v items ih =>
    obtain ⟨fuel, rfl⟩ : ∃ m, fuel = m + 1 := ⟨fuel - 1, by omega⟩
    have hv : ReadsBack l place depth v := h v List.mem_cons_self
    cases items with
    | nil =>
      have hends : EndsNumber (gap ++ ']' :: rest) := hgap.endsNumber (endsNumber_cons (by decide))
      have hread := hv fuel (gap ++ ']' :: rest) (by simp [writeItemsWith] at hfuel; omega) hends
      rw [writeItemsWith, readItems, hread]
      simp [skipGap_append hgap, skipGap_cons, isGap, bind, Except.bind, pure, Except.pure]
    | cons w r =>
      simp only [writeItemsWith, List.length_append, List.length_cons] at hfuel
      have hmore : readItems fuel depth (writeItemsWith l place (w :: r) ++ (gap ++ ']' :: rest)) =
          .ok (w :: r, rest) :=
        ih (by simp) (fun u hu => h u (List.mem_cons_of_mem v hu)) (by omega)
      have hread := hv fuel (',' :: (l.line place ++ (writeItemsWith l place (w :: r) ++
        (gap ++ ']' :: rest)))) (by omega) (endsNumber_cons (by decide))
      rw [writeItemsWith, readItems]
      simp only [List.append_assoc, List.cons_append]
      rw [hread]
      simp [skipGap_cons, isGap, readItems_append (l.blank_line place), hmore, bind, Except.bind, pure,
        Except.pure]

theorem readFields_writeFieldsWith {fields : List (String × Json)} (hne : fields ≠ [])
    (h : ∀ f ∈ fields, ReadsBack l place depth f.2) {gap : List Char} (hgap : Blank gap)
    (rest : List Char) {fuel : Nat}
    (hfuel : 2 * (writeFieldsWith l place fields).length + 1 ≤ fuel) :
    readFields fuel depth (writeFieldsWith l place fields ++ (gap ++ '\x7d' :: rest)) =
      .ok (fields, rest) := by
  induction fields generalizing fuel with
  | nil => exact absurd rfl hne
  | cons f fields ih =>
    obtain ⟨k, v⟩ := f
    obtain ⟨fuel, rfl⟩ : ∃ m, fuel = m + 1 := ⟨fuel - 1, by omega⟩
    have hv : ReadsBack l place depth v := h (k, v) List.mem_cons_self
    cases fields with
    | nil =>
      simp only [writeFieldsWith, List.length_append, List.length_cons] at hfuel
      have hends : EndsNumber (gap ++ '\x7d' :: rest) := hgap.endsNumber (endsNumber_cons (by decide))
      have hread := hv fuel (gap ++ '\x7d' :: rest) (by omega) hends
      rw [writeFieldsWith, readFields]
      simp [writeText, skipGap_cons, isGap, readText_written, readValue_append l.blank_gap, hread,
        skipGap_append hgap, bind, Except.bind, pure, Except.pure]
    | cons g r =>
      simp only [writeFieldsWith, List.length_append, List.length_cons] at hfuel
      have hmore : readFields fuel depth (writeFieldsWith l place (g :: r) ++ (gap ++ '\x7d' :: rest)) =
          .ok (g :: r, rest) :=
        ih (by simp) (fun u hu => h u (List.mem_cons_of_mem (k, v) hu)) (by omega)
      have hread := hv fuel (',' :: (l.line place ++ (writeFieldsWith l place (g :: r) ++
        (gap ++ '\x7d' :: rest)))) (by omega) (endsNumber_cons (by decide))
      rw [writeFieldsWith, readFields]
      simp [writeText, skipGap_cons, isGap, readText_written, readValue_append l.blank_gap, hread,
        readFields_append (l.blank_line place), hmore, bind, Except.bind, pure, Except.pure]

theorem StartsValue.append {s : List Char} (h : StartsValue s) (t : List Char) :
    StartsValue (s ++ t) := by
  obtain ⟨c, r, rfl, hc⟩ := h
  exact ⟨c, r ++ t, rfl, hc⟩

theorem ReadsBack.arr {items : List Json} (hdepth : depth < maxDepth)
    (hstart : ∀ v ∈ items, ∀ t, v ≠ .real t) (h : ∀ v ∈ items, ReadsBack l (place + 1) (depth + 1) v) :
    ReadsBack l place depth (.arr items) := by
  refine .of_succ (by simp) fun fuel rest hfuel _ => ?_
  have hopen : ¬ maxDepth ≤ depth := by omega
  cases items with
  | nil => simp [writeWith, readValue, skipGap_cons, isGap, hopen]
  | cons v r =>
    simp only [writeWith, List.length_append, List.length_cons] at hfuel
    have hitems : readItems fuel (depth + 1) (writeItemsWith l (place + 1) (v :: r) ++
        (l.line place ++ ']' :: rest)) = .ok (v :: r, rest) :=
      readItems_writeItemsWith (List.cons_ne_nil v r) h (l.blank_line place) rest (by omega)
    obtain ⟨c, t, hct, hgap, hne⟩ : StartsValue (writeItemsWith l (place + 1) (v :: r)) := by
      have hv := startsValue_writeWith (hstart v List.mem_cons_self) l (place + 1)
      cases r with
      | nil => exact hv
      | cons w r =>
        rw [writeItemsWith, List.append_assoc]
        exact hv.append _
    rw [hct, List.cons_append] at hitems
    simp [writeWith, readValue, skipGap_cons, isGap, hopen, skipGap_append (l.blank_line _), hct,
      skipGap_cons hgap, hne, hitems, Except.map]

theorem ReadsBack.obj {fields : List (String × Json)} (hdepth : depth < maxDepth)
    (h : ∀ f ∈ fields, ReadsBack l (place + 1) (depth + 1) f.2) :
    ReadsBack l place depth (.obj fields) := by
  refine .of_succ (by simp) fun fuel rest hfuel _ => ?_
  have hopen : ¬ maxDepth ≤ depth := by omega
  cases fields with
  | nil => simp [writeWith, readValue, skipGap_cons, isGap, hopen]
  | cons f r =>
    simp only [writeWith, List.length_append, List.length_cons] at hfuel
    have hfields : readFields fuel (depth + 1) (writeFieldsWith l (place + 1) (f :: r) ++
        (l.line place ++ '\x7d' :: rest)) = .ok (f :: r, rest) :=
      readFields_writeFieldsWith (List.cons_ne_nil f r) h (l.blank_line place) rest (by omega)
    obtain ⟨t, ht⟩ : ∃ t, writeFieldsWith l (place + 1) (f :: r) = '"' :: t := by
      cases r <;> exact ⟨_, rfl⟩
    rw [ht, List.cons_append] at hfields
    simp [writeWith, readValue, skipGap_cons, isGap, hopen, skipGap_append (l.blank_line _), ht, hfields,
      Except.map]

end

/-- Values without fractions and with at most so many brackets around anything in them. -/
def Within : Nat → Json → Prop
  | 0, v => match v with
    | .real _ | .arr _ | .obj _ => False
    | _ => True
  | n + 1, v => match v with
    | .real _ => False
    | .arr items => ∀ w ∈ items, Within n w
    | .obj fields => ∀ f ∈ fields, Within n f.2
    | _ => True

theorem Within.ne_real {n : Nat} {v : Json} (h : Within n v) (t : String) : v ≠ .real t := by
  rintro rfl
  cases n <;> exact h

/-- A value is read from its text in any layout. -/
theorem Within.readsBack {n : Nat} {v : Json} (h : Within n v) (l : Layout) (place : Nat)
    {depth : Nat} (hdepth : depth + n ≤ maxDepth) : ReadsBack l place depth v := by
  induction n generalizing v place depth with
  | zero =>
    cases v with
    | null => exact readsBack_null
    | bool b => exact readsBack_bool b
    | int n => exact readsBack_int n
    | str s => exact readsBack_str s
    | real | arr | obj => exact h.elim
  | succ n ih =>
    cases v with
    | null => exact readsBack_null
    | bool b => exact readsBack_bool b
    | int n => exact readsBack_int n
    | str s => exact readsBack_str s
    | real => exact h.elim
    | arr items =>
      exact .arr (by omega) (fun w hw => (h w hw).ne_real) fun w hw => ih (h w hw) _ (by omega)
    | obj fields => exact .obj (by omega) fun f hf => ih (h f hf) _ (by omega)

theorem Within.readFirst_writeWith {n : Nat} {v : Json} (h : Within n v) (hn : n ≤ maxDepth)
    (l : Layout) {rest : List Char} (hrest : EndsNumber rest) :
    readFirst (writeWith l 0 v ++ rest) = .ok (v, rest) := by
  refine h.readsBack l 0 (by omega) _ rest ?_ hrest
  simp only [fuelFor, List.length_append]
  omega

theorem Within.readFirst_compact {n : Nat} {v : Json} (h : Within n v) (hn : n ≤ maxDepth) :
    readFirst v.compact.toList = .ok (v, []) := by
  have hread := h.readFirst_writeWith hn .compact endsNumber_nil
  rwa [writeWith_compact, List.append_nil, ← String.toList_ofList (l := v.write)] at hread

theorem Within.readWhole_pretty {n : Nat} {v : Json} (h : Within n v) (hn : n ≤ maxDepth) :
    readWhole (v.pretty ++ "\n").toList = .ok v := by
  have hread := h.readFirst_writeWith hn .indented (endsNumber_cons (c := '\n') (s := []) (by decide))
  rw [writeWith_indented] at hread
  rw [readWhole, String.toList_append, pretty, String.toList_ofList]
  show (readFirst (writeIndented 0 v ++ ['\n']) >>= _) = _
  rw [hread]
  rfl

end JavaReview.Json
