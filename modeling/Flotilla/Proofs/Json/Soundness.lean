import Flotilla.Proofs.Json.Grammar

/-!
# Reading is sound

What is read as a whole value is a text of the grammar. With the grammar's texts being read to their
end, the texts that are read without a fault are the JSON texts, and no others.
-/

namespace Flotilla

namespace Tree

section Soundness

variable {cs rest : List Char} {n : Numeral}

theorem run_of_span {digits : List Char} (h : Digits.span cs = (digits, rest))
    (present : ¬digits.isEmpty = true) : Run digits ∧ cs = digits ++ rest := by
  obtain ⟨rfl, rfl⟩ := Prod.mk.inj h
  refine ⟨⟨fun hnil => present (List.isEmpty_iff.mpr hnil), ?_⟩, (Digits.span_append cs).symm⟩
  exact fun d hd => List.all_eq_true.mp List.all_takeWhile d hd

theorem exists_fraction {fraction : List Char} (h : fraction? cs = some (fraction, rest)) :
    ∃ point, Fraction point fraction ∧ cs = point ++ rest := by
  unfold fraction? at h
  split at h
  next cs =>
    split at h
    next digits others hspan =>
    split at h
    next => simp at h
    next present =>
      obtain ⟨rfl, rfl⟩ := Prod.mk.inj (Option.some.inj h)
      obtain ⟨hrun, rfl⟩ := run_of_span hspan present
      exact ⟨'.' :: digits, .present hrun, rfl⟩
  next =>
    obtain ⟨rfl, rfl⟩ := Prod.mk.inj (Option.some.inj h)
    exact ⟨[], .absent, rfl⟩

theorem exists_power {power : Option (Bool × List Char)} (h : power? cs = some (power, rest)) :
    ∃ exponent, Power exponent power ∧ cs = exponent ++ rest := by
  unfold power? at h
  split at h
  next mark cs =>
    split at h
    next letter =>
      split at h
      next down others hsign =>
      split at h
      next digits behind hspan =>
      split at h
      next => simp at h
      next present =>
        obtain ⟨rfl, rfl⟩ := Prod.mk.inj (Option.some.inj h)
        obtain ⟨hrun, rfl⟩ := run_of_span hspan present
        split at hsign
        next =>
          obtain ⟨rfl, rfl⟩ := Prod.mk.inj hsign
          exact ⟨mark :: '-' :: digits, .down letter hrun, rfl⟩
        next =>
          obtain ⟨rfl, rfl⟩ := Prod.mk.inj hsign
          exact ⟨mark :: '+' :: digits, .up letter hrun, rfl⟩
        next =>
          obtain ⟨rfl, rfl⟩ := Prod.mk.inj hsign
          exact ⟨mark :: digits, .bare letter hrun, rfl⟩
    next =>
      obtain ⟨rfl, rfl⟩ := Prod.mk.inj (Option.some.inj h)
      exact ⟨[], .absent, rfl⟩
  next =>
    obtain ⟨rfl, rfl⟩ := Prod.mk.inj (Option.some.inj h)
    exact ⟨[], .absent, rfl⟩

theorem exists_number (h : numeral? cs = some (n, rest)) :
    ∃ used, Number used n ∧ cs = used ++ rest := by
  unfold numeral? at h
  split at h
  next negative after hsign =>
  split at h
  next whole others hspan =>
  split at h
  next => simp at h
  next hwhole =>
    obtain ⟨present, hzero⟩ := not_or.mp hwhole
    obtain ⟨⟨fraction, behind⟩, hfraction, h⟩ := Option.bind_eq_some_iff.mp h
    obtain ⟨⟨power, last⟩, hpower, h⟩ := Option.bind_eq_some_iff.mp h
    obtain ⟨rfl, rfl⟩ := Prod.mk.inj (Option.some.inj h)
    obtain ⟨hrun, rfl⟩ := run_of_span hspan present
    obtain ⟨point, hpoint, rfl⟩ := exists_fraction hfraction
    obtain ⟨exponent, hexponent, rfl⟩ := exists_power hpower
    have leading (first : whole.head? = some '0') : whole = ['0'] :=
      Decidable.byContradiction fun hne => hzero ⟨first, hne⟩
    obtain ⟨sign, hsigned, rfl⟩ : ∃ sign, Sign sign negative ∧
        cs = sign ++ (whole ++ (point ++ (exponent ++ last))) := by
      split at hsign
      next =>
        obtain ⟨rfl, rfl⟩ := Prod.mk.inj hsign
        exact ⟨['-'], .minus, rfl⟩
      next =>
        obtain ⟨rfl, rfl⟩ := Prod.mk.inj hsign
        exact ⟨[], .plus, rfl⟩
    exact ⟨_, .mk hsigned hrun leading hpoint hexponent, by simp⟩

theorem exists_units {marks : List Mark} (h : marks? cs = some (marks, rest)) :
    ∃ used, Units used marks ∧ cs = used ++ '"' :: rest := by
  fun_induction marks? cs generalizing marks with
  | case1 => simp at h
  | case2 others =>
      obtain ⟨rfl, rfl⟩ := Prod.mk.inj (Option.some.inj h)
      exact ⟨[], .nil, rfl⟩
  | case3 a b c d others n found last hfound number ih =>
      obtain ⟨rfl, rfl⟩ := Prod.mk.inj (Option.some.inj h)
      obtain ⟨used, hunits, rfl⟩ := ih hfound
      exact ⟨_, .code number hunits, rfl⟩
  | case4 => simp at h
  | case5 letter others _ c found last hfound name ih =>
      obtain ⟨rfl, rfl⟩ := Prod.mk.inj (Option.some.inj h)
      obtain ⟨used, hunits, rfl⟩ := ih hfound
      exact ⟨_, .named name hunits, rfl⟩
  | case6 => simp at h
  | case7 => simp at h
  | case8 c others quote _ _ plain ih =>
      obtain ⟨⟨found, last⟩, hfound, heq⟩ := Option.map_eq_some_iff.mp h
      obtain ⟨rfl, rfl⟩ := Prod.mk.inj heq
      obtain ⟨used, hunits, rfl⟩ := ih hfound
      obtain ⟨backslash, printed⟩ := not_or.mp plain
      exact ⟨_, .plain quote backslash (Nat.not_lt.mp printed) hunits, rfl⟩

theorem exists_quoted {s : Option String} (h : quoted? cs = some (s, rest)) :
    ∃ used, Quoted used s ∧ '"' :: cs = used ++ rest := by
  obtain ⟨⟨marks, others⟩, hmarks, heq⟩ := Option.map_eq_some_iff.mp h
  obtain ⟨rfl, rfl⟩ := Prod.mk.inj heq
  obtain ⟨used, hunits, rfl⟩ := exists_units hmarks
  exact ⟨_, .mk hunits, by simp⟩

mutual

/-- What is read as a whole value is the text of that value, behind a gap. -/
theorem exists_value (fuel : Nat) {cs rest : List Char} {tree : Tree}
    (h : readValue fuel cs = (tree, rest)) (whole : tree.isWhole = true) :
    ∃ gap used, Gap gap ∧ Value used tree ∧ cs = gap ++ (used ++ rest) := by
  match fuel with
  | 0 =>
      obtain ⟨rfl, -⟩ := Prod.mk.inj h
      simp [isWhole] at whole
  | fuel + 1 =>
    obtain ⟨gap, hgap, hcs⟩ := exists_gap cs
    suffices ∃ used, Value used tree ∧ skipGaps cs = used ++ rest by
      obtain ⟨used, hvalue, heq⟩ := this
      exact ⟨gap, used, hgap, hvalue, heq ▸ hcs⟩
    rw [readValue] at h
    split at h
    next =>
      obtain ⟨rfl, -⟩ := Prod.mk.inj h
      simp [isWhole] at whole
    next inner hstart =>
      split at h
      next s last hquoted =>
        obtain ⟨rfl, rfl⟩ := Prod.mk.inj h
        obtain ⟨used, htext, heq⟩ := exists_quoted hquoted
        exact ⟨used, .text htext, hstart.trans heq⟩
      next =>
        obtain ⟨rfl, -⟩ := Prod.mk.inj h
        simp [isWhole] at whole
    next inner hstart =>
      obtain ⟨blank, hblank, hinner⟩ := exists_gap inner
      split at h
      next last hskip =>
        obtain ⟨rfl, rfl⟩ := Prod.mk.inj h
        exact ⟨_, .noItems hblank, by rw [hstart, hinner, hskip]; simp⟩
      next hskip =>
        rw [readItems_skipGaps] at h
        generalize hread : readItems fuel inner = found at h
        obtain ⟨items, closed, last⟩ := found
        obtain ⟨rfl, rfl⟩ := Prod.mk.inj h
        rw [isWhole, Bool.and_eq_true] at whole
        obtain ⟨rfl, hitems⟩ := whole
        obtain ⟨used, hused, rfl⟩ := exists_items fuel hread hitems
        exact ⟨_, .array hused, by rw [hstart]; simp⟩
    next inner hstart =>
      obtain ⟨blank, hblank, hinner⟩ := exists_gap inner
      split at h
      next last hskip =>
        obtain ⟨rfl, rfl⟩ := Prod.mk.inj h
        exact ⟨_, .noMembers hblank, by rw [hstart, hinner, hskip]; simp⟩
      next hskip =>
        rw [readMembers_skipGaps] at h
        generalize hread : readMembers fuel inner = found at h
        obtain ⟨members, closed, last⟩ := found
        obtain ⟨rfl, rfl⟩ := Prod.mk.inj h
        rw [isWhole, Bool.and_eq_true] at whole
        obtain ⟨rfl, hmembers⟩ := whole
        obtain ⟨used, hused, rfl⟩ := exists_members fuel hread hmembers
        exact ⟨_, .object hused, by rw [hstart]; simp⟩
    next hstart =>
      obtain ⟨rfl, rfl⟩ := Prod.mk.inj h
      exact ⟨_, .null, hstart⟩
    next hstart =>
      obtain ⟨rfl, rfl⟩ := Prod.mk.inj h
      exact ⟨_, .yes, hstart⟩
    next hstart =>
      obtain ⟨rfl, rfl⟩ := Prod.mk.inj h
      exact ⟨_, .no, hstart⟩
    next =>
      split at h
      next n last hnumeral =>
        obtain ⟨rfl, rfl⟩ := Prod.mk.inj h
        obtain ⟨used, hnumber, heq⟩ := exists_number hnumeral
        exact ⟨used, .number hnumber, heq⟩
      next =>
        obtain ⟨rfl, -⟩ := Prod.mk.inj h
        simp [isWhole] at whole

theorem exists_items (fuel : Nat) {cs rest : List Char} {items : List Tree}
    (h : readItems fuel cs = (items, true, rest)) (whole : areWhole items = true) :
    ∃ used, Items used items ∧ cs = used ++ ']' :: rest := by
  match fuel with
  | 0 => simp [readItems] at h
  | fuel + 1 =>
    rw [readItems] at h
    generalize hread : readValue fuel cs = found at h
    obtain ⟨item, after⟩ := found
    obtain ⟨blank, hblank, hafter⟩ := exists_gap after
    have hitem (whole : item.isWhole = true) : ∃ used, Item used item ∧
        cs = used ++ skipGaps after := by
      obtain ⟨gap, used, hgap, hvalue, heq⟩ := exists_value fuel hread whole
      exact ⟨_, .mk hgap hvalue hblank, by rw [heq]; simp [← hafter]⟩
    simp only at h
    split at h
    next last hskip =>
      simp only [Prod.mk.injEq, true_and] at h
      obtain ⟨rfl, rfl⟩ := h
      simp only [areWhole, Bool.and_true] at whole
      obtain ⟨used, hused, rfl⟩ := hitem whole
      exact ⟨used, .last hused, by rw [hskip]⟩
    next others hskip =>
      generalize hothers : readItems fuel others = found at h
      obtain ⟨items, closed, last⟩ := found
      simp only [Prod.mk.injEq] at h
      obtain ⟨rfl, rfl, rfl⟩ := h
      rw [areWhole, Bool.and_eq_true] at whole
      obtain ⟨used, hused, rfl⟩ := hitem whole.1
      obtain ⟨tail, htail, rfl⟩ := exists_items fuel hothers whole.2
      exact ⟨_, .more hused htail, by rw [hskip]; simp⟩
    next => simp at h

theorem exists_members (fuel : Nat) {cs rest : List Char} {members : List (Tree × Tree)}
    (h : readMembers fuel cs = (members, true, rest)) (whole : haveWhole members = true) :
    ∃ used, Members used members ∧ cs = used ++ '\x7d' :: rest := by
  match fuel with
  | 0 => simp [readMembers] at h
  | fuel + 1 =>
    rw [readMembers] at h
    split at h
    next name afterName hname =>
      obtain ⟨before, quoted, hbefore, hvalue, rfl⟩ := exists_value fuel hname rfl
      have hquoted := hvalue.quoted
      obtain ⟨behind, hbehind, hafterName⟩ := exists_gap afterName
      split at h
      next afterColon hcolon =>
        generalize hread : readValue fuel afterColon = found at h
        obtain ⟨value, after⟩ := found
        obtain ⟨blank, hblank, hafter⟩ := exists_gap after
        have hitem (whole : value.isWhole = true) : ∃ used, Item used value ∧
            afterColon = used ++ skipGaps after := by
          obtain ⟨gap, used, hgap, hvalue, heq⟩ := exists_value fuel hread whole
          exact ⟨_, .mk hgap hvalue hblank, by rw [heq]; simp [← hafter]⟩
        rw [hafterName, hcolon]
        simp only at h
        split at h
        next last hskip =>
          simp only [Prod.mk.injEq, true_and] at h
          obtain ⟨rfl, rfl⟩ := h
          simp only [haveWhole, Bool.and_true] at whole
          obtain ⟨used, hused, rfl⟩ := hitem whole
          exact ⟨_, .last hbefore hquoted hbehind hused, by rw [hskip]; simp⟩
        next others hskip =>
          generalize hothers : readMembers fuel others = found at h
          obtain ⟨members, closed, last⟩ := found
          simp only [Prod.mk.injEq] at h
          obtain ⟨rfl, rfl, rfl⟩ := h
          rw [haveWhole, Bool.and_eq_true] at whole
          obtain ⟨used, hused, rfl⟩ := hitem whole.1
          obtain ⟨tail, htail, rfl⟩ := exists_members fuel hothers whole.2
          exact ⟨_, .more hbefore hquoted hbehind hused htail, by rw [hskip]; simp⟩
        next => simp at h
      next => simp at h
    next => simp at h

end

end Soundness

end Tree

namespace Document

/-- The texts that are read without a fault and to their end are the JSON texts. -/
theorem read_iff_item (cs : List Char) (tree : Tree) :
    Document.read cs = ⟨tree, true⟩ ∧ tree.isWhole = true ↔ Tree.Item cs tree := by
  refine ⟨fun ⟨h, whole⟩ => ?_, fun h => ⟨read_of_item h, h.isWhole⟩⟩
  generalize hread : Tree.readValue (2 * cs.length + 2) cs = found
  obtain ⟨root, rest⟩ := found
  rw [Document.read, hread] at h
  obtain ⟨rfl, hends⟩ := Document.mk.inj h
  obtain ⟨before, used, hbefore, hvalue, rfl⟩ := Tree.exists_value _ hread whole
  obtain ⟨behind, hbehind, hrest⟩ := Tree.exists_gap rest
  rw [List.isEmpty_iff.mp hends, List.append_nil] at hrest
  exact .mk hbefore hvalue (hrest ▸ hbehind)

end Document

end Flotilla
