import Relational.Execution.Query
import Relational.Proofs.Sorting
import Relational.Proofs.Value.Mirror
import Relational.Proofs.Value.Order

/-!
# Where the order of values is transitive

Any two values other than real numbers can be compared, each is equal to itself, and the order is turned round with its
sides. It is not transitive: values of one kind are compared in the order of the kind, values of different kinds by
their texts, and a text may stand between those of two integers that are in the other order. Among values of which no
three stand so the order is a total preorder, and sorting puts them in order.
-/

namespace Relational

/-! ## Data in the same place -/

/-- Data of one kind, other than real numbers, that has the same place is the same. -/
theorem Payload.eq_of_place {p q : Payload} (hkind : p.kind = q.kind) (hreal : p.kind ≠ .real)
    (h : p.place = q.place) : p = q := by
  cases p <;> cases q <;> simp only [Payload.kind, reduceCtorEq] at hkind
  case integer.integer m n => simpa [place] using h
  case real.real => exact absurd rfl hreal
  case text.text s t =>
    have hinj : Function.Injective fun c : Char => (c.toNat : Int) :=
      fun c d hcd => Char.toNat_inj.1 (Int.ofNat_inj.1 hcd)
    rw [String.toList_inj.1 (List.map_injective_iff.2 hinj h)]
  case bool.bool a b => cases a <;> cases b <;> simp_all [place]
  case date.date d e =>
    obtain ⟨year, month, day⟩ := d
    obtain ⟨year', month', day'⟩ := e
    simpa [place, Int.natCast_inj] using h
  case time.time t u =>
    obtain ⟨hour, minute, second⟩ := t
    obtain ⟨hour', minute', second'⟩ := u
    simpa [place, Int.natCast_inj] using h
  case timestamp.timestamp t u =>
    obtain ⟨⟨year, month, day⟩, hour, minute, second⟩ := t
    obtain ⟨⟨year', month', day'⟩, hour', minute', second'⟩ := u
    simpa [place, Int.natCast_inj, and_assoc] using h

namespace Value

/-! ## One value at most another -/

/-- The first value comes before the second or is equal to it. -/
def AtMost (v w : Value) : Prop :=
  ∃ o, v.order w = .ok o ∧ o.isLE = true

/-- The first value comes before the second. -/
def comesBefore (v w : Value) : Bool :=
  (v.order w).toOption == some .lt

variable {u v w : Value}

theorem atMost_iff {o : Ordering} (h : v.order w = .ok o) : AtMost v w ↔ o.isLE = true := by
  constructor
  · rintro ⟨o', ho', hle⟩
    rw [h, Except.ok.injEq] at ho'
    rwa [ho']
  · exact fun hle => ⟨o, h, hle⟩

instance (v w : Value) : Decidable (AtMost v w) :=
  match h : v.order w with
  | .ok o => decidable_of_iff (o.isLE = true) (atMost_iff h).symm
  | .error _ => isFalse fun ⟨_, ho, _⟩ => by rw [h] at ho; cases ho

/-- A value is at most another unless that comes before it. -/
theorem atMost_iff_not_before (hv : v.kind? ≠ some .real) (hw : w.kind? ≠ some .real) :
    AtMost v w ↔ comesBefore w v = false := by
  obtain ⟨o, ho, hswap⟩ := order_swap hv hw
  rw [atMost_iff ho, comesBefore, hswap]
  cases o <;> simp [Except.toOption]

theorem atMost_of_isNull (hv : v.isNull = true) : AtMost v w := by
  rw [isNull, Option.isNone_iff_eq_none] at hv
  unfold AtMost order
  rw [hv]
  cases w.payload with
  | none => exact ⟨.eq, rfl, rfl⟩
  | some q => exact ⟨.lt, rfl, rfl⟩

/-- Only NULL is at most NULL. -/
theorem isNull_of_atMost (h : AtMost v w) (hw : w.isNull = true) : v.isNull = true := by
  rw [isNull, Option.isNone_iff_eq_none] at hw ⊢
  obtain ⟨o, ho, hle⟩ := h
  rw [order, hw] at ho
  cases hv : v.payload with
  | none => rfl
  | some p =>
    rw [hv] at ho
    cases ho
    cases hle

theorem comesBefore_iff_place (hkind : v.kind? = w.kind?) (hreal : v.kind? ≠ some .real) :
    comesBefore v w = true ↔ v.place < w.place := by
  unfold kind? at hkind hreal
  unfold comesBefore order place
  cases hp : v.payload with
  | none =>
    rw [hp, Option.map_none, eq_comm, Option.map_eq_none_iff] at hkind
    rw [hkind]
    simp [Except.toOption]
  | some p =>
    rw [hp, Option.map_some] at hkind hreal
    obtain ⟨q, hq, hsame⟩ := Option.map_eq_some_iff.1 hkind.symm
    obtain ⟨o, ho, hlt⟩ := payloadOrder_eq_ok hsame.symm (fun h => hreal (congrArg some h))
    rw [hq]
    simp only [ho, Except.toOption, beq_iff_eq, Option.some.injEq, hlt, Option.elim_some, List.cons_lt_cons_self]

/-- Values of one kind are compared by their places. -/
theorem atMost_iff_place (hkind : v.kind? = w.kind?) (hreal : v.kind? ≠ some .real) :
    AtMost v w ↔ v.place ≤ w.place := by
  rw [atMost_iff_not_before hreal (hkind ▸ hreal), ← Bool.not_eq_true,
    comesBefore_iff_place hkind.symm (hkind ▸ hreal), not_lt]

/-- Values of one kind that are in one place have one text. -/
theorem toText_eq_of_place (hkind : v.kind? = w.kind?) (hreal : v.kind? ≠ some .real) (h : v.place = w.place) :
    v.toText = w.toText := by
  unfold kind? at hkind hreal
  unfold place at h
  unfold toText
  cases hp : v.payload with
  | none =>
    rw [hp, Option.map_none, eq_comm, Option.map_eq_none_iff] at hkind
    rw [hkind]
  | some p =>
    rw [hp, Option.map_some] at hkind hreal
    obtain ⟨q, hq, hsame⟩ := Option.map_eq_some_iff.1 hkind.symm
    rw [hp, hq] at h
    rw [hq, Payload.eq_of_place hsame.symm (fun h => hreal (congrArg some h)) (List.cons.inj h).2]

/-- Values of different kinds are compared by their texts. -/
theorem atMost_iff_text (hv : v.isNull = false) (hw : w.isNull = false) (hkind : v.kind? ≠ w.kind?)
    (hvreal : v.kind? ≠ some .real) (hwreal : w.kind? ≠ some .real) : AtMost v w ↔ v.toText ≤ w.toText := by
  obtain ⟨p, hp⟩ := Option.isSome_iff_exists.1 (Option.isNone_eq_false_iff.1 hv)
  obtain ⟨q, hq⟩ := Option.isSome_iff_exists.1 (Option.isNone_eq_false_iff.1 hw)
  simp only [kind?, hp, hq, Option.map_some, ne_eq, Option.some_inj] at hkind hvreal hwreal
  have ho : v.order w = .ok (compare v.toText w.toText) := by
    rw [order, toText, toText, hp, hq]
    exact payloadOrder_of_kind_ne hkind hvreal hwreal
  rw [atMost_iff ho, Ordering.isLE_iff_ne_gt, compare_gt_iff_gt, not_lt]

/-! ## Three values in a circle -/

/-- Among the values there are two of one kind in the order of the kind, and one of another kind whose text stands
between theirs in the other order. -/
def Tangled (xs : List Value) : Prop :=
  ∃ v ∈ xs, ∃ w ∈ xs, ∃ u ∈ xs, v.kind? = w.kind? ∧ u.kind? ≠ v.kind? ∧ u.isNull = false ∧
    comesBefore v w = true ∧ w.toText ≤ u.toText ∧ u.toText ≤ v.toText

instance (xs : List Value) : Decidable (Tangled xs) :=
  inferInstanceAs (Decidable (∃ v ∈ xs, _))

section Tangled

variable {xs : List Value} (hexact : ∀ v ∈ xs, v.kind? ≠ some .real)

include hexact

/-- Two values of one kind are in order if the text of a third value of another kind stands between theirs. -/
theorem atMost_of_texts (htangled : ¬ Tangled xs) (hv : v ∈ xs) (hw : w ∈ xs) (hu : u ∈ xs)
    (hkind : v.kind? = w.kind?) (hother : u.kind? ≠ v.kind?) (hpresent : u.isNull = false)
    (hvu : v.toText ≤ u.toText) (huw : u.toText ≤ w.toText) : AtMost v w := by
  rw [atMost_iff_not_before (hexact v hv) (hexact w hw), ← Bool.not_eq_true]
  intro hlt
  exact htangled ⟨w, hw, v, hv, u, hu, hkind.symm, hkind ▸ hother, hpresent, hlt, hvu, huw⟩

/-- Two values of one kind that are in order, with the text of a third value of another kind between theirs in the other
order, have one text. -/
theorem toText_eq_of_between (htangled : ¬ Tangled xs) (hv : v ∈ xs) (hw : w ∈ xs) (hu : u ∈ xs)
    (hkind : v.kind? = w.kind?) (hother : u.kind? ≠ v.kind?) (hpresent : u.isNull = false) (hvw : AtMost v w)
    (hwu : w.toText ≤ u.toText) (huv : u.toText ≤ v.toText) : v.toText = w.toText := by
  have hwv : AtMost w v := atMost_of_texts hexact htangled hw hv hu hkind.symm (hkind ▸ hother) hpresent hwu huv
  have hplace : v.place = w.place := le_antisymm ((atMost_iff_place hkind (hexact v hv)).1 hvw)
    ((atMost_iff_place hkind.symm (hexact w hw)).1 hwv)
  exact toText_eq_of_place hkind (hexact v hv) hplace

/-- The order is transitive on values of which no three are tangled. -/
theorem atMost_trans (htangled : ¬ Tangled xs) (hu : u ∈ xs) (hv : v ∈ xs) (hw : w ∈ xs) (huv : AtMost u v)
    (hvw : AtMost v w) : AtMost u w := by
  cases hunull : u.isNull with
  | true => exact atMost_of_isNull hunull
  | false =>
  have hvnull : v.isNull = false := by
    by_contra h
    rw [isNull_of_atMost huv (Bool.not_eq_false _ ▸ h)] at hunull
    cases hunull
  have hwnull : w.isNull = false := by
    by_contra h
    rw [isNull_of_atMost hvw (Bool.not_eq_false _ ▸ h)] at hvnull
    cases hvnull
  have hureal := hexact u hu
  have hvreal := hexact v hv
  have hwreal := hexact w hw
  by_cases hkuv : u.kind? = v.kind? <;> by_cases hkvw : v.kind? = w.kind?
  · -- all three are of one kind
    rw [atMost_iff_place hkuv hureal] at huv
    rw [atMost_iff_place hkvw hvreal] at hvw
    rw [atMost_iff_place (hkuv.trans hkvw) hureal]
    exact huv.trans hvw
  · -- the first two are
    have htext := (atMost_iff_text hvnull hwnull hkvw hvreal hwreal).1 hvw
    rw [atMost_iff_text hunull hwnull (hkuv ▸ hkvw) hureal hwreal]
    by_contra hnot
    rw [toText_eq_of_between hexact htangled hu hv hw hkuv (hkuv ▸ Ne.symm hkvw) hwnull huv htext
      (le_of_not_ge hnot)] at hnot
    exact hnot htext
  · -- the last two are
    have htext := (atMost_iff_text hunull hvnull hkuv hureal hvreal).1 huv
    rw [atMost_iff_text hunull hwnull (hkvw ▸ hkuv) hureal hwreal]
    by_contra hnot
    rw [← toText_eq_of_between hexact htangled hv hw hu hkvw hkuv hunull hvw (le_of_not_ge hnot) htext] at hnot
    exact hnot htext
  · have htext := (atMost_iff_text hunull hvnull hkuv hureal hvreal).1 huv
    have htext' := (atMost_iff_text hvnull hwnull hkvw hvreal hwreal).1 hvw
    by_cases hkuw : u.kind? = w.kind?
    · exact atMost_of_texts hexact htangled hu hw hv hkuw (Ne.symm hkuv) hvnull htext htext'
    · rw [atMost_iff_text hunull hwnull hkuw hureal hwreal]
      exact htext.trans htext'

/-- Three tangled values stand in a circle. -/
theorem not_tangled_of_trans (h : ∀ u ∈ xs, ∀ v ∈ xs, ∀ w ∈ xs, AtMost u v → AtMost v w → AtMost u w) :
    ¬ Tangled xs := by
  rintro ⟨v, hv, w, hw, u, hu, hkind, hother, hpresent, hlt, hwu, huv⟩
  have hnull : v.isNull = w.isNull := by
    have hsame := congrArg Option.isNone hkind
    rwa [kind?, kind?, Option.isNone_map, Option.isNone_map] at hsame
  suffices hwv : AtMost w v by
    rw [atMost_iff_not_before (hexact w hw) (hexact v hv), hlt] at hwv
    cases hwv
  cases hvnull : v.isNull with
  | true => exact atMost_of_isNull (hnull ▸ hvnull)
  | false =>
    refine h w hw u hu v hv ?_ ?_
    · exact (atMost_iff_text (hnull ▸ hvnull) hpresent (hkind ▸ Ne.symm hother) (hexact w hw) (hexact u hu)).2 hwu
    · exact (atMost_iff_text hpresent hvnull hother (hexact u hu) (hexact v hv)).2 huv

/-! ## Sorting -/

/-- The order compares values of which no three are tangled as a sort needs it. -/
theorem compares (htangled : ¬ Tangled xs) :
    Sorting.Compares Execution.valueBefore comesBefore (· ∈ xs) := by
  have hiff : ∀ {v w}, v ∈ xs → w ∈ xs → (comesBefore v w = true ↔ ¬ AtMost w v) := by
    intro v w hv hw
    rw [atMost_iff_not_before (hexact w hw) (hexact v hv), Bool.not_eq_false]
  refine ⟨fun v w hv hw => ?_, fun v w hv hw h => ?_, fun u v w hu hv hw h => ?_⟩
  · obtain ⟨o, ho, -⟩ := order_swap (hexact v hv) (hexact w hw)
    rw [Execution.valueBefore, comesBefore, ho]
    rfl
  · obtain ⟨o, ho, hswap⟩ := order_swap (hexact v hv) (hexact w hw)
    rw [comesBefore, ho] at h
    rw [comesBefore, hswap]
    cases o <;> simp [Except.toOption] at h ⊢
  · rw [hiff hu hw] at h
    rw [hiff hu hv, hiff hv hw, ← not_and_or]
    exact fun ⟨hvu, hwv⟩ => h (atMost_trans hexact htangled hw hv hu hwv hvu)

end Tangled

/-- The order of values other than real numbers: any two can be compared, each is equal to itself, and the order is
turned round with its sides. Among given values it is transitive exactly if no three of them are tangled, and then
sorting puts them so that each is at most those behind it. -/
theorem order_preorder (xs : List Value) (hexact : ∀ v ∈ xs, v.kind? ≠ some .real) :
    (∀ v ∈ xs, v.order v = .ok .eq) ∧
      (∀ v ∈ xs, ∀ w ∈ xs, ∃ o, v.order w = .ok o ∧ w.order v = .ok o.swap) ∧
      ((∀ u ∈ xs, ∀ v ∈ xs, ∀ w ∈ xs, AtMost u v → AtMost v w → AtMost u w) ↔ ¬ Tangled xs) ∧
      (¬ Tangled xs → ∃ ys, Sorting.sort Execution.valueBefore xs = .ok ys ∧ ys.Perm xs ∧ ys.Pairwise AtMost) := by
  have hswap : ∀ v ∈ xs, ∀ w ∈ xs, ∃ o, v.order w = .ok o ∧ w.order v = .ok o.swap :=
    fun v hv w hw => order_swap (hexact v hv) (hexact w hw)
  refine ⟨fun v hv => ?_, hswap, ⟨not_tangled_of_trans hexact, fun htangled u hu v hv w hw => ?_⟩, fun htangled => ?_⟩
  · obtain ⟨o, ho, ho'⟩ := hswap v hv v hv
    rw [ho, Except.ok.injEq] at ho'
    rw [ho]
    cases o <;> first | rfl | cases ho'
  · exact atMost_trans hexact htangled hu hv hw
  · obtain ⟨ys, hys, hperm, hsorted⟩ := Sorting.sort_eq_ok (compares hexact htangled)
      (List.pairwise_of_forall fun _ _ => trivial : xs.Pairwise fun _ _ => True)
    refine ⟨ys, hys, hperm, hsorted.imp_of_mem fun {v w} hv hw hfollows => ?_⟩
    have hv' := hperm.mem_iff.1 hv
    have hw' := hperm.mem_iff.1 hw
    rw [atMost_iff_not_before (hexact v hv') (hexact w hw')]
    exact (compares hexact htangled).not_before hv' hw' hfollows

/-- A text, two integers and NULL: the text comes after both integers. -/
theorem word_and_integers_ordered :
    (∀ v ∈ [ofString "b", ofInteger 10, null .int, ofInteger 9], v.kind? ≠ some .real) ∧
      ∃ ys, Sorting.sort Execution.valueBefore [ofString "b", ofInteger 10, null .int, ofInteger 9] = .ok ys ∧
        ys.Perm [ofString "b", ofInteger 10, null .int, ofInteger 9] ∧ ys.Pairwise AtMost := by
  have hexact : ∀ v ∈ [ofString "b", ofInteger 10, null .int, ofInteger 9], v.kind? ≠ some .real := by
    decide +kernel
  exact ⟨hexact, (order_preorder _ hexact).2.2.2 (by decide +kernel)⟩

/-- The integers 9 and 10 are in order, and so are 10 and the text 5, but 9 comes after the text 5. Sorting does not put
the three in order. -/
theorem integers_beside_text_in_circle :
    (∀ v ∈ [ofString "5", ofInteger 9, ofInteger 10], v.kind? ≠ some .real) ∧
      AtMost (ofInteger 9) (ofInteger 10) ∧ AtMost (ofInteger 10) (ofString "5") ∧
      ¬ AtMost (ofInteger 9) (ofString "5") ∧
      ∃ ys, Sorting.sort Execution.valueBefore [ofString "5", ofInteger 9, ofInteger 10] = .ok ys ∧
        ¬ ys.Pairwise AtMost := by
  refine ⟨by decide +kernel, by decide +kernel, by decide +kernel, by decide +kernel, ?_⟩
  have hsorted : ((Sorting.sort Execution.valueBefore [ofString "5", ofInteger 9, ofInteger 10]).toOption.any
      fun ys => !decide (ys.Pairwise AtMost)) = true := by
    decide +kernel
  cases hys : Sorting.sort Execution.valueBefore [ofString "5", ofInteger 9, ofInteger 10] with
  | error failure =>
    rw [hys] at hsorted
    cases hsorted
  | ok ys =>
    rw [hys] at hsorted
    exact ⟨ys, rfl, by simpa [Except.toOption] using hsorted⟩

end Value

end Relational
