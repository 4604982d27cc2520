import Flotilla.Json.Reader
import Flotilla.Proofs.Text.Numeral

/-!
# The grammar of JSON texts

`Tree.Item` says which texts are JSON and which surface each of them shows: one rule for each form
of a value, gaps around every token, and nothing about how a text is read. The reader is complete
for it: every text of the grammar is read to its end with the surface that the grammar gives it, as
long as what stands behind does not go on with a numeral.
-/

namespace Flotilla

namespace Tree

/-- Nothing but characters that may stand between tokens. -/
def Gap (cs : List Char) : Prop := ∀ c ∈ cs, isGap c = true

/-- One or more digits. -/
def Run (digits : List Char) : Prop := digits ≠ [] ∧ ∀ d ∈ digits, d.isDigit = true

/-- The sign of a numeral, which is written only if it is a minus. -/
inductive Sign : List Char → Bool → Prop where
  | plus : Sign [] false
  | minus : Sign ['-'] true

/-- The digits behind a point, or nothing. -/
inductive Fraction : List Char → List Char → Prop where
  | absent : Fraction [] []
  | present {digits} (h : Run digits) : Fraction ('.' :: digits) digits

/-- A power of ten with its sign, or nothing. -/
inductive Power : List Char → Option (Bool × List Char) → Prop where
  | absent : Power [] none
  | bare {mark digits} (letter : mark = 'e' ∨ mark = 'E') (h : Run digits) :
      Power (mark :: digits) (some (false, digits))
  | up {mark digits} (letter : mark = 'e' ∨ mark = 'E') (h : Run digits) :
      Power (mark :: '+' :: digits) (some (false, digits))
  | down {mark digits} (letter : mark = 'e' ∨ mark = 'E') (h : Run digits) :
      Power (mark :: '-' :: digits) (some (true, digits))

/-- A numeral. Its whole part has no leading zero unless it is zero. -/
inductive Number : List Char → Numeral → Prop where
  | mk {sign negative whole point fraction exponent power} (hsign : Sign sign negative)
      (hwhole : Run whole) (leading : whole.head? = some '0' → whole = ['0'])
      (hfraction : Fraction point fraction) (hpower : Power exponent power) :
      Number (sign ++ (whole ++ (point ++ exponent))) ⟨negative, whole, fraction, power⟩

/-- What may stand between two quotes, and the marks it leaves. -/
inductive Units : List Char → List Mark → Prop where
  | nil : Units [] []
  | plain {c cs marks} (quote : c ≠ '"') (backslash : c ≠ '\\') (printed : 32 ≤ c.toNat)
      (h : Units cs marks) : Units (c :: cs) (.char c :: marks)
  | named {letter c cs marks} (name : named? letter = some c) (h : Units cs marks) :
      Units ('\\' :: letter :: cs) (.char c :: marks)
  | code {a b c d n cs marks} (number : hexQuad? a b c d = some n) (h : Units cs marks) :
      Units ('\\' :: 'u' :: a :: b :: c :: d :: cs) (unitMark n :: marks)

/-- A text in quotes. -/
inductive Quoted : List Char → Option String → Prop where
  | mk {cs marks} (h : Units cs marks) :
      Quoted ('"' :: (cs ++ ['"'])) ((charsOf? marks).map String.ofList)

mutual

/-- A value, from its first character to its last one. -/
inductive Value : List Char → Tree → Prop where
  | null : Value ['n', 'u', 'l', 'l'] .null
  | yes : Value ['t', 'r', 'u', 'e'] (.bool true)
  | no : Value ['f', 'a', 'l', 's', 'e'] (.bool false)
  | number {cs n} (h : Number cs n) : Value cs (.number n)
  | text {cs s} (h : Quoted cs s) : Value cs (.text s)
  | noItems {cs} (gap : Gap cs) : Value ('[' :: (cs ++ [']'])) (.array [] true)
  | array {cs items} (h : Items cs items) : Value ('[' :: (cs ++ [']'])) (.array items true)
  | noMembers {cs} (gap : Gap cs) : Value ('\x7b' :: (cs ++ ['\x7d'])) (.object [] true)
  | object {cs members} (h : Members cs members) :
      Value ('\x7b' :: (cs ++ ['\x7d'])) (.object members true)

/-- A value with gaps on both sides. -/
inductive Item : List Char → Tree → Prop where
  | mk {before cs tree behind} (hbefore : Gap before) (h : Value cs tree) (hbehind : Gap behind) :
      Item (before ++ (cs ++ behind)) tree

/-- One or more items with commas between them. -/
inductive Items : List Char → List Tree → Prop where
  | last {cs tree} (h : Item cs tree) : Items cs [tree]
  | more {cs tree others items} (h : Item cs tree) (rest : Items others items) :
      Items (cs ++ ',' :: others) (tree :: items)

/-- One or more members with commas between them. -/
inductive Members : List Char → List (Tree × Tree) → Prop where
  | last {before quoted name behind cs tree} (hbefore : Gap before) (hname : Quoted quoted name)
      (hbehind : Gap behind) (h : Item cs tree) :
      Members (before ++ (quoted ++ (behind ++ ':' :: cs))) [(.text name, tree)]
  | more {before quoted name behind cs tree others members} (hbefore : Gap before)
      (hname : Quoted quoted name) (hbehind : Gap behind) (h : Item cs tree)
      (rest : Members others members) :
      Members (before ++ (quoted ++ (behind ++ ':' :: (cs ++ ',' :: others))))
        ((.text name, tree) :: members)

end

theorem gap_nil : Gap [] := List.forall_mem_nil _

/-- A value is an item without gaps. -/
theorem Value.item {cs : List Char} {tree : Tree} (h : Value cs tree) : Item cs tree := by
  have hitem : Item ([] ++ (cs ++ [])) tree := .mk gap_nil h gap_nil
  rwa [List.nil_append, List.append_nil] at hitem

section Gaps

variable {gap rest : List Char}

theorem skipGaps_append (h : Gap gap) (rest : List Char) :
    skipGaps (gap ++ rest) = skipGaps rest := List.dropWhile_append_of_pos h

theorem skipGaps_cons {c : Char} (h : isGap c = false) (cs : List Char) :
    skipGaps (c :: cs) = c :: cs := by simp [skipGaps, h]

/-- What is skipped is a gap. -/
theorem exists_gap (cs : List Char) : ∃ gap, Gap gap ∧ cs = gap ++ skipGaps cs :=
  ⟨cs.takeWhile isGap, fun c hc => List.all_eq_true.mp List.all_takeWhile c hc,
    List.takeWhile_append_dropWhile.symm⟩

end Gaps

/-- The text behind a value does not go on with its numeral. -/
def Delimited (rest : List Char) : Prop :=
  ∀ c ∈ rest.head?, c.isDigit = false ∧ c ≠ '.' ∧ c ≠ 'e' ∧ c ≠ 'E'

@[simp] theorem delimited_nil : Delimited [] := by simp [Delimited]

theorem delimited_cons (c : Char) (rest : List Char)
    (h : c.isDigit = false ∧ c ≠ '.' ∧ c ≠ 'e' ∧ c ≠ 'E') : Delimited (c :: rest) := by
  intro d hd
  obtain rfl := Option.some.inj hd
  exact h

theorem Delimited.of_gap {gap rest : List Char} (h : Gap gap) (delimited : Delimited rest) :
    Delimited (gap ++ rest) := by
  cases gap with
  | nil => exact delimited
  | cons c gap =>
      have hgap := h c (by simp)
      refine delimited_cons c (gap ++ rest) ⟨?_, ?_, ?_, ?_⟩
      all_goals
        simp only [isGap, Bool.or_eq_true, decide_eq_true_eq] at hgap
        rcases hgap with ((rfl | rfl) | rfl) | rfl <;> decide

theorem Run.head?_ne {digits rest : List Char} (h : Run digits) {c : Char}
    (other : c.isDigit = false) : (digits ++ rest).head? ≠ some c := by
  obtain ⟨d, digits, rfl⟩ := List.exists_cons_of_ne_nil h.1
  intro heq
  obtain rfl := Option.some.inj heq
  simp [h.2 d (by simp)] at other

section Reading

variable {cs rest digits : List Char} {n : Numeral} {marks : List Mark} {s : Option String}

theorem fraction?_of_fraction {point fraction : List Char} (h : Fraction point fraction)
    (stops : ∀ c ∈ rest.head?, c.isDigit = false ∧ c ≠ '.') :
    fraction? (point ++ rest) = some (fraction, rest) := by
  cases h with
  | absent =>
      cases rest with
      | nil => rfl
      | cons c rest =>
          unfold fraction?
          split
          next heq => exact absurd (List.cons.inj heq).1 (stops c rfl).2
          next => rfl
  | present h =>
      rw [List.cons_append, fraction?, Digits.span_append_of_digits h.2 fun c hc => (stops c hc).1]
      simp [h.1]

theorem power?_of_power {exponent : List Char} {power : Option (Bool × List Char)}
    (h : Power exponent power) (delimited : Delimited rest) :
    power? (exponent ++ rest) = some (power, rest) := by
  have hspan {digits : List Char} (h : Run digits) :
      Digits.span (digits ++ rest) = (digits, rest) :=
    Digits.span_append_of_digits h.2 fun c hc => (delimited c hc).1
  cases h with
  | absent =>
      cases rest with
      | nil => rfl
      | cons c rest =>
          have hc := delimited c rfl
          simp [power?, hc.2.2.1, hc.2.2.2]
  | bare letter h =>
      rw [List.cons_append, power?, if_pos letter]
      · simp [hspan h, h.1]
      · intro _ heq
        exact h.head?_ne (c := '-') rfl (congrArg List.head? heq)
      · intro _ heq
        exact h.head?_ne (c := '+') rfl (congrArg List.head? heq)
  | up letter h => simp [power?, letter, hspan h, h.1]
  | down letter h => simp [power?, letter, hspan h, h.1]

/-- What may follow the digits of a whole part. -/
theorem stops_of_number {point fraction exponent : List Char} {power : Option (Bool × List Char)}
    (hfraction : Fraction point fraction) (hpower : Power exponent power)
    (delimited : Delimited rest) :
    (∀ c ∈ (exponent ++ rest).head?, c.isDigit = false ∧ c ≠ '.') ∧
      ∀ c ∈ (point ++ (exponent ++ rest)).head?, c.isDigit = false := by
  have hexponent : ∀ c ∈ (exponent ++ rest).head?, c.isDigit = false ∧ c ≠ '.' := by
    have hmark {mark : Char} (letter : mark = 'e' ∨ mark = 'E') :
        mark.isDigit = false ∧ mark ≠ '.' := by
      rcases letter with rfl | rfl <;> decide
    cases hpower with
    | absent => exact fun c hc => ⟨(delimited c hc).1, (delimited c hc).2.1⟩
    | bare letter | up letter | down letter =>
        intro c hc
        obtain rfl := Option.some.inj hc
        exact hmark letter
  refine ⟨hexponent, ?_⟩
  cases hfraction with
  | absent => exact fun c hc => (hexponent c hc).1
  | present =>
      intro c hc
      obtain rfl := Option.some.inj hc
      rfl

theorem numeral?_of_number (h : Number cs n) (delimited : Delimited rest) :
    numeral? (cs ++ rest) = some (n, rest) := by
  obtain @⟨sign, negative, whole, point, fraction, exponent, power, hsign, hwhole, leading,
    hfraction, hpower⟩ := h
  obtain ⟨hexponent, hpoint⟩ := stops_of_number hfraction hpower delimited
  have hspan := Digits.span_append_of_digits hwhole.2 hpoint
  have hread := fraction?_of_fraction hfraction hexponent
  have hpower := power?_of_power hpower delimited
  simp only [List.append_assoc]
  cases hsign with
  | minus =>
      unfold numeral?
      simpa [hspan, hread, hpower, hwhole.1] using leading
  | plus =>
      unfold numeral?
      rw [List.nil_append]
      split
      next heq =>
        split at heq
        next hminus =>
          exact absurd (congrArg List.head? hminus) (hwhole.head?_ne (c := '-') rfl)
        next =>
          obtain ⟨rfl, rfl⟩ := Prod.mk.inj heq
          simpa [hspan, hread, hpower, hwhole.1] using leading

theorem marks?_of_units (h : Units cs marks) (rest : List Char) :
    marks? (cs ++ '"' :: rest) = some (marks, rest) := by
  induction h with
  | nil => simp [marks?]
  | @plain c cs marks quote backslash printed h ih =>
      rw [List.cons_append, marks?]
      · rw [if_neg (by simpa [backslash] using printed), ih]
        rfl
      · exact quote
      · intro _ _ _ _ _ heq
        exact absurd heq backslash
      · intro _ _ heq
        exact absurd heq backslash
  | @named letter c cs marks name h ih =>
      rw [List.cons_append, List.cons_append, marks?]
      · rw [name, ih]
      · rintro _ _ _ _ _ rfl
        exact absurd ((show named? 'u' = none by decide).symm.trans name) (by simp)
  | code number h ih =>
      simp only [List.cons_append]
      rw [marks?, number, ih]

theorem quoted?_of_quoted (h : Quoted cs s) (rest : List Char) :
    ∃ inner, cs ++ rest = '"' :: inner ∧ quoted? inner = some (s, rest) := by
  obtain @⟨inner, marks, h⟩ := h
  exact ⟨inner ++ '"' :: rest, by simp, by simp [quoted?, marks?_of_units h rest]⟩

end Reading

section Beginnings

variable {cs : List Char} {tree : Tree}

/-- How a numeral begins: with nothing that another value could begin with. -/
theorem Number.exists_cons {n : Numeral} (h : Number cs n) :
    ∃ c rest, cs = c :: rest ∧ isGap c = false ∧ c ∉ ['"', '[', ']', '\x7b', 'n', 't', 'f'] := by
  obtain @⟨sign, negative, whole, point, fraction, exponent, power, hsign, hwhole, -⟩ := h
  cases hsign with
  | minus => exact ⟨'-', _, rfl, by decide, by decide⟩
  | plus =>
      obtain ⟨d, digits, rfl⟩ := List.exists_cons_of_ne_nil hwhole.1
      have hdigit : d.isDigit = true := hwhole.2 d (by simp)
      have apart {c : Char} (other : c.isDigit = false) : d ≠ c := by
        rintro rfl
        simp [hdigit] at other
      refine ⟨d, _, rfl, ?_, ?_⟩
      · simp [isGap, apart (c := ' ') rfl, apart (c := '\n') rfl, apart (c := '\t') rfl,
          apart (c := '\r') rfl]
      · intro hmem
        have hother : ∀ c ∈ ['"', '[', ']', '\x7b', 'n', 't', 'f'], c.isDigit = false := by
          simp only [List.forall_mem_cons]
          exact ⟨rfl, rfl, rfl, rfl, rfl, rfl, rfl, nofun⟩
        exact apart (hother d hmem) rfl

/-- How a value begins: with nothing that could be skipped or end a bracket. -/
theorem Value.exists_cons (h : Value cs tree) :
    ∃ c rest, cs = c :: rest ∧ isGap c = false ∧ c ≠ ']' := by
  cases h with
  | number h =>
      obtain ⟨c, rest, rfl, hgap, hletter⟩ := h.exists_cons
      exact ⟨c, rest, rfl, hgap, fun heq => hletter (by simp [heq])⟩
  | text h =>
      obtain ⟨h⟩ := h
      exact ⟨'"', _, rfl, by decide, by decide⟩
  | null | yes | no | noItems | array | noMembers | object =>
      exact ⟨_, _, rfl, by decide, by decide⟩

/-- The text of a quoted value is a quoted text. -/
theorem Value.quoted {s : Option String} (h : Value cs (.text s)) : Quoted cs s := by
  cases h with
  | text h => exact h

theorem Item.skipGaps_eq (h : Item cs tree) (rest : List Char) :
    ∃ c others, skipGaps (cs ++ rest) = c :: others ∧ c ≠ ']' := by
  obtain @⟨before, inner, tree, behind, hbefore, h, -⟩ := h
  obtain ⟨c, others, rfl, hgap, hc⟩ := h.exists_cons
  refine ⟨c, others ++ (behind ++ rest), ?_, hc⟩
  rw [List.append_assoc, skipGaps_append hbefore]
  simp [skipGaps_cons hgap]

theorem Items.skipGaps_eq {items : List Tree} (h : Items cs items) (rest : List Char) :
    ∃ c others, skipGaps (cs ++ rest) = c :: others ∧ c ≠ ']' := by
  cases h with
  | last h => exact h.skipGaps_eq rest
  | more h => simpa using h.skipGaps_eq _

theorem Members.skipGaps_eq {members : List (Tree × Tree)} (h : Members cs members)
    (rest : List Char) : ∃ others, skipGaps (cs ++ rest) = '"' :: others := by
  cases h with
  | last hbefore hname | more hbefore hname =>
      obtain ⟨h⟩ := hname
      rw [List.append_assoc, skipGaps_append hbefore]
      exact ⟨_, skipGaps_cons (by decide) _⟩

end Beginnings

section Completeness

theorem readValue_number {cs rest : List Char} {n : Numeral} (h : Number cs n)
    (delimited : Delimited rest) (fuel : Nat) :
    readValue (fuel + 1) (cs ++ rest) = (.number n, rest) := by
  have hnumeral := numeral?_of_number h delimited
  obtain ⟨c, others, rfl, hgap, hletter⟩ := h.exists_cons
  rw [List.cons_append] at hnumeral ⊢
  rw [readValue, skipGaps_cons hgap]
  split <;> simp_all

theorem readValue_quoted {cs : List Char} {s : Option String} (h : Quoted cs s)
    (rest : List Char) (fuel : Nat) : readValue (fuel + 1) (cs ++ rest) = (.text s, rest) := by
  obtain ⟨inner, heq, hquoted⟩ := quoted?_of_quoted h rest
  rw [heq, readValue, skipGaps_cons (by decide)]
  simp only [hquoted]

theorem readValue_gap {gap : List Char} (h : Gap gap) (cs : List Char) (fuel : Nat) :
    readValue fuel (gap ++ cs) = readValue fuel cs := by
  cases fuel with
  | zero => rfl
  | succ fuel => rw [readValue, readValue, skipGaps_append h]

theorem readValue_skipGaps (cs : List Char) (fuel : Nat) :
    readValue fuel (skipGaps cs) = readValue fuel cs := by
  obtain ⟨gap, hgap, heq⟩ := exists_gap cs
  exact (readValue_gap hgap (skipGaps cs) fuel).symm.trans (congrArg (readValue fuel) heq.symm)

theorem readItems_skipGaps (cs : List Char) (fuel : Nat) :
    readItems fuel (skipGaps cs) = readItems fuel cs := by
  cases fuel with
  | zero => rfl
  | succ fuel => rw [readItems, readItems, readValue_skipGaps]

theorem readMembers_skipGaps (cs : List Char) (fuel : Nat) :
    readMembers fuel (skipGaps cs) = readMembers fuel cs := by
  cases fuel with
  | zero => rfl
  | succ fuel => rw [readMembers, readMembers, readValue_skipGaps]

mutual

/-- The text of a value is read to its end. -/
theorem readValue_of_value {cs : List Char} {tree : Tree} (h : Value cs tree) {rest : List Char}
    (delimited : Delimited rest) (fuel : Nat) (enough : 2 * cs.length ≤ fuel) :
    readValue fuel (cs ++ rest) = (tree, rest) := by
  obtain ⟨fuel, rfl⟩ : ∃ less, fuel = less + 1 := by
    obtain ⟨c, others, rfl, -⟩ := h.exists_cons
    rw [List.length_cons] at enough
    exact ⟨fuel - 1, by omega⟩
  match h with
  | .null => rfl
  | .yes => rfl
  | .no => rfl
  | .number h => exact readValue_number h delimited fuel
  | .text h => exact readValue_quoted h rest fuel
  | .noItems gap =>
      rw [List.cons_append, List.append_assoc, readValue, skipGaps_cons (by decide)]
      simp only [skipGaps_append gap]
      rfl
  | .noMembers gap =>
      rw [List.cons_append, List.append_assoc, readValue, skipGaps_cons (by decide)]
      simp only [skipGaps_append gap]
      rfl
  | .array h =>
      rw [List.length_cons, List.length_append] at enough
      have hitems := readItems_of_items h rest fuel (by omega)
      obtain ⟨c, others, hskip, hc⟩ := h.skipGaps_eq (']' :: rest)
      rw [← readItems_skipGaps, hskip] at hitems
      rw [List.cons_append, List.append_assoc, List.singleton_append, readValue,
        skipGaps_cons (by decide)]
      simp only [hskip]
      split
      next heq => exact absurd (List.cons.inj heq).1 hc
      next => rw [hitems]
  | .object h =>
      rw [List.length_cons, List.length_append] at enough
      have hmembers := readMembers_of_members h rest fuel (by omega)
      obtain ⟨others, hskip⟩ := h.skipGaps_eq ('\x7d' :: rest)
      rw [← readMembers_skipGaps, hskip] at hmembers
      rw [List.cons_append, List.append_assoc, List.singleton_append, readValue,
        skipGaps_cons (by decide)]
      simp only [hskip]
      split
      next heq => exact absurd (List.cons.inj heq).1 (by decide)
      next => rw [hmembers]

/-- A value with its gaps is read, and the gap behind it is left. -/
theorem readValue_of_item {cs : List Char} {tree : Tree} (h : Item cs tree) {rest : List Char}
    (delimited : Delimited rest) (fuel : Nat) (enough : 2 * cs.length ≤ fuel) :
    ∃ behind, Gap behind ∧ readValue fuel (cs ++ rest) = (tree, behind ++ rest) := by
  match h with
  | .mk hbefore h hbehind =>
    simp only [List.length_append] at enough
    refine ⟨_, hbehind, ?_⟩
    rw [List.append_assoc, List.append_assoc, readValue_gap hbefore]
    exact readValue_of_value h (delimited.of_gap hbehind) fuel (by omega)

theorem readItems_of_items {cs : List Char} {items : List Tree} (h : Items cs items)
    (rest : List Char) (fuel : Nat) (enough : 2 * cs.length + 1 ≤ fuel) :
    readItems fuel (cs ++ ']' :: rest) = (items, true, rest) := by
  obtain ⟨fuel, rfl⟩ : ∃ less, fuel = less + 1 := ⟨fuel - 1, by omega⟩
  match h with
  | .last h =>
      obtain ⟨behind, hbehind, hread⟩ := readValue_of_item h
        (delimited_cons ']' rest (by decide)) fuel (by omega)
      rw [readItems, hread]
      simp only [skipGaps_append hbehind, skipGaps_cons (show isGap ']' = false by decide)]
  | @Items.more cs tree tail items h others =>
      simp only [List.length_append, List.length_cons] at enough
      rw [List.append_assoc, List.cons_append]
      obtain ⟨behind, hbehind, hread⟩ := readValue_of_item h
        (delimited_cons ',' (tail ++ ']' :: rest) (by decide)) fuel (by omega)
      have hothers := readItems_of_items others rest fuel (by omega)
      rw [readItems, hread]
      simp only [skipGaps_append hbehind, skipGaps_cons (show isGap ',' = false by decide), hothers]

theorem readMembers_of_members {cs : List Char} {members : List (Tree × Tree)}
    (h : Members cs members) (rest : List Char) (fuel : Nat)
    (enough : 2 * cs.length + 1 ≤ fuel) :
    readMembers fuel (cs ++ '\x7d' :: rest) = (members, true, rest) := by
  obtain ⟨fuel, rfl⟩ : ∃ less, fuel = less + 2 := by
    obtain ⟨others, hskip⟩ := h.skipGaps_eq []
    have hpositive : cs ≠ [] := by
      rintro rfl
      simp [skipGaps] at hskip
    have := List.length_pos_iff.mpr hpositive
    exact ⟨fuel - 2, by omega⟩
  match h with
  | .last hbefore hname hbehind h =>
      simp only [List.length_append, List.length_cons] at enough
      simp only [List.append_assoc, List.cons_append]
      obtain ⟨behind, hgap, hread⟩ := readValue_of_item h (delimited_cons '\x7d' rest (by decide))
        (fuel + 1) (by omega)
      rw [readMembers, readValue_gap hbefore, readValue_quoted hname]
      simp only [skipGaps_append hbehind, skipGaps_cons (show isGap ':' = false by decide), hread,
        skipGaps_append hgap, skipGaps_cons (show isGap '\x7d' = false by decide)]
  | @Members.more _ _ _ _ _ _ tail _ hbefore hname hbehind h others =>
      simp only [List.length_append, List.length_cons] at enough
      simp only [List.append_assoc, List.cons_append]
      obtain ⟨behind, hgap, hread⟩ := readValue_of_item h
        (delimited_cons ',' (tail ++ '\x7d' :: rest) (by decide)) (fuel + 1) (by omega)
      have hothers := readMembers_of_members others rest (fuel + 1) (by omega)
      rw [readMembers, readValue_gap hbefore, readValue_quoted hname]
      simp only [skipGaps_append hbehind, skipGaps_cons (show isGap ':' = false by decide), hread,
        skipGaps_append hgap, skipGaps_cons (show isGap ',' = false by decide), hothers]

end

end Completeness

section Wholeness

mutual

theorem Value.isWhole {cs : List Char} {tree : Tree} (h : Value cs tree) : tree.isWhole = true := by
  match h with
  | .null | .yes | .no | .number _ | .text _ | .noItems _ | .noMembers _ => rfl
  | .array h => simp [Tree.isWhole, h.areWhole]
  | .object h => simp [Tree.isWhole, h.haveWhole]

theorem Item.isWhole {cs : List Char} {tree : Tree} (h : Item cs tree) : tree.isWhole = true := by
  match h with
  | .mk _ h _ => exact h.isWhole

theorem Items.areWhole {cs : List Char} {items : List Tree} (h : Items cs items) :
    Tree.areWhole items = true := by
  match h with
  | .last h => simp [Tree.areWhole, h.isWhole]
  | .more h rest => simp [Tree.areWhole, h.isWhole, rest.areWhole]

theorem Members.haveWhole {cs : List Char} {members : List (Tree × Tree)} (h : Members cs members) :
    Tree.haveWhole members = true := by
  match h with
  | .last _ _ _ h => simp [Tree.haveWhole, h.isWhole]
  | .more _ _ _ h rest => simp [Tree.haveWhole, h.isWhole, rest.haveWhole]

end

end Wholeness

end Tree

namespace Document

variable {cs : List Char} {tree : Tree}

/-- A JSON text is read to its end. -/
theorem read_of_item (h : Tree.Item cs tree) : Document.read cs = ⟨tree, true⟩ := by
  obtain ⟨behind, hgap, hread⟩ :=
    Tree.readValue_of_item h Tree.delimited_nil (2 * cs.length + 2) (by omega)
  rw [List.append_nil] at hread
  rw [Document.read, hread]
  simp only [Tree.skipGaps_append hgap]
  rfl

end Document

end Flotilla
