/-
The documents that are read: whole numbers fit into 64 bits, and the members of an object stand in the order of
their names, so no name comes twice. Every value that a text is read as is of this kind (`proper_of_read`).
-/
import Placeholder.Json.Reader
import Placeholder.Number.Integer
import Placeholder.Proofs.Digits
import Placeholder.Proofs.Text

namespace Placeholder.Json

/-- The members stand in the order of their names. -/
def InOrder (members : List (Text × Json)) : Prop := members.Pairwise fun p q => Text.before p.1 q.1 = true

/-- A value as it is read. -/
inductive Proper : Json → Prop
  | null : Proper null
  | bool (b : Bool) : Proper (bool b)
  | integer {i : Int} (h : Integer.least ≤ i ∧ i ≤ Integer.greatestSize) : Proper (integer i)
  | float (x : Binary64) : Proper (float x)
  | string (s : Text) : Proper (string s)
  | array {items : List Json} (h : ∀ item ∈ items, Proper item) : Proper (array items)
  | object {members : List (Text × Json)} (horder : InOrder members) (h : ∀ p ∈ members, Proper p.2) :
    Proper (object members)

/-! ## Names -/

mutual

/-- The names of the members of a value, at every depth. -/
def names : Json → List Text
  | array items => itemNames items
  | object members => memberNames members
  | _ => []

def itemNames : List Json → List Text
  | [] => []
  | item :: items => names item ++ itemNames items

def memberNames : List (Text × Json) → List Text
  | [] => []
  | (name, value) :: members => name :: names value ++ memberNames members

end

theorem names_subset_of_item {items : List Json} {item : Json} (h : item ∈ items) :
    names item ⊆ names (array items) := by
  rw [names]
  induction items with
  | nil => cases h
  | cons first items ih =>
    rw [itemNames]
    rcases List.mem_cons.1 h with rfl | h
    · exact List.subset_append_left _ _
    · exact List.subset_append_of_subset_right _ (ih h)

theorem names_subset_of_member {members : List (Text × Json)} {name : Text} {value : Json}
    (h : (name, value) ∈ members) : name ∈ names (object members) ∧ names value ⊆ names (object members) := by
  rw [names]
  induction members with
  | nil => cases h
  | cons first members ih =>
    obtain ⟨n, v⟩ := first
    rw [memberNames, List.cons_append]
    rcases List.mem_cons.1 h with heq | h
    · obtain ⟨rfl, rfl⟩ := Prod.mk.inj heq
      exact ⟨List.mem_cons_self .., List.subset_cons_of_subset _ (List.subset_append_left _ _)⟩
    · have hsub : memberNames members ⊆ n :: (names v ++ memberNames members) :=
        List.subset_cons_of_subset _ (List.subset_append_right _ _)
      exact ⟨hsub (ih h).1, List.Subset.trans (ih h).2 hsub⟩

/-! ## Members in order -/

theorem mem_insertMember {name : Text} {value : Json} {members : List (Text × Json)} {p : Text × Json}
    (h : p ∈ insertMember name value members) : p = (name, value) ∨ p ∈ members := by
  induction members with
  | nil => exact .inl (List.mem_singleton.1 h)
  | cons q members ih =>
    obtain ⟨n, v⟩ := q
    rw [insertMember] at h
    split at h
    · rcases List.mem_cons.1 h with rfl | h
      · exact .inl rfl
      · exact .inr (List.mem_cons_of_mem _ h)
    · split at h
      · exact List.mem_cons.1 h
      · rcases List.mem_cons.1 h with rfl | h
        · exact .inr (List.mem_cons_self ..)
        · exact (ih h).imp id (List.mem_cons_of_mem _)

theorem InOrder.insertMember {members : List (Text × Json)} (h : InOrder members) (name : Text) (value : Json) :
    InOrder (insertMember name value members) := by
  induction members with
  | nil => exact List.pairwise_singleton _ _
  | cons q members ih =>
    obtain ⟨n, v⟩ := q
    have hbehind : ∀ p ∈ members, Text.before n p.1 = true := fun _ hp => List.rel_of_pairwise_cons h hp
    rw [Json.insertMember]
    split
    · next heq =>
      subst heq
      exact List.pairwise_cons.2 ⟨hbehind, h.of_cons⟩
    · next hne =>
      split
      · next hbefore =>
        refine List.pairwise_cons.2 ⟨fun p hp => ?_, h⟩
        rcases List.mem_cons.1 hp with rfl | hp
        · exact hbefore
        · exact Text.before_trans hbefore (hbehind p hp)
      · next hnot =>
        refine List.pairwise_cons.2 ⟨fun p hp => ?_, ih h.of_cons⟩
        rcases mem_insertMember hp with rfl | hp
        · exact Text.before_of_ne (Ne.symm hne) (Bool.eq_false_iff.2 hnot)
        · exact hbehind p hp

theorem InOrder.nodup {members : List (Text × Json)} (h : InOrder members) : (members.map Prod.fst).Nodup :=
  List.pairwise_map.2 (h.imp Text.ne_of_before)

/-! ## What is read -/

/-- What a reader gives has a property. -/
def Gives {α : Type} (P : α → Prop) (m : Except Fault (α × Text)) : Prop := ∀ a t, m = .ok (a, t) → P a

theorem Gives.ok {α : Type} {P : α → Prop} {a : α} (h : P a) (t : Text) : Gives P (.ok (a, t)) := by
  rintro _ _ ⟨⟩
  exact h

theorem Gives.error {α : Type} {P : α → Prop} (f : Fault) : Gives P (.error f : Except Fault (α × Text)) :=
  fun _ _ h => by cases h

theorem Gives.bind {α β : Type} {P : α → Prop} {Q : β → Prop} {m : Except Fault (α × Text)}
    {f : α × Text → Except Fault (β × Text)} (h : Gives P m) (hf : ∀ a t, P a → Gives Q (f (a, t))) :
    Gives Q (m >>= f) := by
  cases hm : m with
  | error e => exact Gives.error e
  | ok r => exact hf r.1 r.2 (h _ _ hm)

/-- Of what is read first nothing need be known. -/
theorem Gives.of_bind {α β : Type} {Q : β → Prop} {m : Except Fault (α × Text)}
    {f : α × Text → Except Fault (β × Text)} (hf : ∀ a t, Gives Q (f (a, t))) : Gives Q (m >>= f) :=
  Gives.bind (P := fun _ => True) (fun _ _ _ => trivial) fun a t _ => hf a t

theorem Gives.ite {α : Type} {P : α → Prop} {c : Prop} [Decidable c] {m n : Except Fault (α × Text)} (hm : Gives P m)
    (hn : Gives P n) : Gives P (if c then m else n) := by
  split
  · exact hm
  · exact hn

theorem takeSignificand_lt {s n : Nat} {t : Text} (h : s < wordLimit) : (takeSignificand s n t).1 < wordLimit := by
  fun_induction takeSignificand s n t with
  | case1 => exact h
  | case2 s n c t hc ih => exact ih (of_decide_eq_true (Bool.and_eq_true_iff.1 hc).2)
  | case3 => exact h

theorem readFloatEnd_gives (negative : Bool) (significand : Nat) (exponent : Int) (t : Text) :
    Gives Proper (readFloatEnd negative significand exponent t) := by
  have hfloat : ∀ {m : Except Fault Binary64} {rest : Text}, Gives Proper (do return (Json.float (← m), rest)) := by
    intro m rest
    cases m with
    | error f => exact Gives.error f
    | ok x => exact Gives.ok (.float x) _
  unfold readFloatEnd
  split
  · split
    · exact Gives.of_bind fun _ _ => hfloat
    · exact hfloat
  · exact hfloat

theorem readNumberEnd_gives {significand : Nat} (h : significand < wordLimit) (negative : Bool) (dropped : Nat)
    (t : Text) : Gives Proper (readNumberEnd negative significand dropped t) := by
  have hlimit : significand < 2 ^ 64 := h
  have hwhole : ∀ (floating : Bool) (t : Text), Gives Proper
      (if floating then readFloatEnd negative significand dropped t
        else if !negative then .ok (integer significand, t)
        else if significand = 0 || 2 ^ 63 < significand then .ok (float (Binary64.ofNat significand).neg, t)
        else .ok (integer (-(significand : Int)), t)) := by
    intro floating t
    split
    · exact readFloatEnd_gives _ _ _ _
    split
    · refine Gives.ok (Proper.integer ?_) _
      simp only [Integer.least, Integer.greatestSize]
      omega
    split
    · exact Gives.ok (Proper.float _) _
    · next hsmall =>
      refine Gives.ok (Proper.integer ?_) _
      simp only [Bool.or_eq_true, decide_eq_true_eq, not_or] at hsmall
      simp only [Integer.least, Integer.greatestSize]
      omega
  unfold readNumberEnd
  split
  · dsimp only
    split
    · split
      · split
        · exact readFloatEnd_gives _ _ _ _
        · exact Gives.error _
      · exact Gives.error _
    · exact readFloatEnd_gives _ _ _ _
  · exact hwhole _ _

theorem readUnsigned_gives (negative : Bool) (t : Text) : Gives Proper (readUnsigned negative t) := by
  have hzero : 0 < wordLimit := by decide
  unfold readUnsigned
  split
  · exact Gives.error _
  · next c after =>
    have hsignificand := takeSignificand_lt (n := 0) (t := c :: after) hzero
    refine Gives.ite ?zero (Gives.ite (readNumberEnd_gives hsignificand _ _ _) (Gives.error _))
    case zero =>
      split
      · exact Gives.ite (Gives.error _) (readNumberEnd_gives hzero _ _ _)
      · exact readNumberEnd_gives hzero _ _ _

theorem readWord_gives {value : Json} (h : value.Proper) (word : String) (t : Text) :
    Gives Proper (readWord word value t) := by
  rw [readWord]
  split
  · exact Gives.ok h _
  · exact Gives.error _

/-- Members in order, each of them with a value as it is read. -/
def ProperMembers (members : List (Text × Json)) : Prop := InOrder members ∧ ∀ p ∈ members, p.2.Proper

theorem ProperMembers.insertMember {members : List (Text × Json)} (h : ProperMembers members) (name : Text)
    {value : Json} (hvalue : value.Proper) : ProperMembers (insertMember name value members) := by
  refine ⟨h.1.insertMember name value, fun p hp => ?_⟩
  rcases mem_insertMember hp with rfl | hp
  · exact hvalue
  · exact h.2 p hp

/-- One induction on the fuel carries the readers of values, of items and of members. -/
theorem readers_give (fuel : Nat) :
    (∀ depth t, Gives Proper (readValue fuel depth t)) ∧
    (∀ depth t, Gives (∀ item ∈ ·, Proper item) (readItems fuel depth t)) ∧
    (∀ depth members t, ProperMembers members → Gives ProperMembers (readMembers fuel depth members t)) := by
  induction fuel with
  | zero => exact ⟨fun _ _ => Gives.error _, fun _ _ => Gives.error _, fun _ _ _ _ => Gives.error _⟩
  | succ fuel ih =>
    obtain ⟨hvalue, hitems, hmembers⟩ := ih
    have hnone : ProperMembers [] := ⟨List.Pairwise.nil, by simp⟩
    refine ⟨fun depth t => ?value, fun depth t => ?items, fun depth members t hproper => ?members⟩
    case value =>
      rw [readValue]
      split
      · exact Gives.error _
      · refine Gives.ite (readWord_gives .null _ _) ?_
        refine Gives.ite (readWord_gives (.bool _) _ _) ?_
        refine Gives.ite (readWord_gives (.bool _) _ _) ?_
        refine Gives.ite (Gives.of_bind fun _ _ => Gives.ok (Proper.string _) _) ?_
        refine Gives.ite (readUnsigned_gives _ _) ?_
        refine Gives.ite (readUnsigned_gives _ _) ?_
        refine Gives.ite (Gives.ite (Gives.error _) ?array) ?_
        case array =>
          split
          · exact Gives.ok (.array (by simp)) _
          · exact Gives.bind (hitems _ _) fun _ _ h => Gives.ok (Proper.array h) _
        refine Gives.ite (Gives.ite (Gives.error _) ?object) (Gives.error _)
        case object =>
          split
          · exact Gives.ok (.object List.Pairwise.nil (by simp)) _
          · exact Gives.bind (hmembers _ _ _ hnone) fun _ _ h => Gives.ok (Proper.object h.1 h.2) _
    case items =>
      rw [readItems]
      refine Gives.bind (hvalue _ _) fun item t hitem => ?_
      dsimp only
      split
      · exact Gives.ok (by simpa using hitem) _
      · exact Gives.bind (hitems _ _) fun items t h => Gives.ok (List.forall_mem_cons.2 ⟨hitem, h⟩) _
      · exact Gives.error _
      · exact Gives.error _
    case members =>
      rw [readMembers]
      split
      · refine Gives.of_bind fun name t => ?_
        dsimp only
        split
        · refine Gives.bind (hvalue _ _) fun value t h => ?_
          have hinserted := hproper.insertMember name h
          dsimp only
          split
          · exact Gives.ok hinserted _
          · exact hmembers _ _ _ hinserted
          · exact Gives.error _
          · exact Gives.error _
        · exact Gives.error _
        · exact Gives.error _
      · exact Gives.error _
      · exact Gives.error _

/-- **What is read** has its members in order and its whole numbers in range, all the way down. -/
theorem proper_of_read {t : Text} {json : Json} (h : read t = .ok json) : json.Proper := by
  rw [read] at h
  cases hvalue : readValue (2 * t.length + 2) depthLimit t with
  | error f => rw [hvalue] at h; cases h
  | ok r =>
    simp only [hvalue, bind, Except.bind] at h
    split at h
    · obtain rfl := Except.ok.inj h
      exact (readers_give _).1 _ _ _ _ hvalue
    · cases h

end Placeholder.Json
