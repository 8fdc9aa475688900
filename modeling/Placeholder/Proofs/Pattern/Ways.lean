/-
The ways in which an expression can match at the start of a text, the preferred one first: what a
search with unlimited patience would try, one way after another.

`ways_rounds` unrolls a repetition once, for expressions that take a character in every round
(`Expr.simple`); all patterns that this library writes itself are of this kind. That a search finds
the first way, and no other, is shown in `Proofs.Pattern.Lockstep`.
-/
import Placeholder.Pattern.Search

namespace Placeholder.Pattern

/-- A way to match: how many characters it takes, and the marks it sets, the latest first. -/
structure Way where
  taken : Nat
  marks : Marks
  deriving DecidableEq, Repr

namespace Way

/-- The way that takes nothing. -/
def stay : Way := ⟨0, []⟩

/-- One way, and behind it another. -/
def andThen (w v : Way) : Way := ⟨w.taken + v.taken, v.marks ++ w.marks⟩

@[simp] theorem stay_taken : stay.taken = 0 := rfl
@[simp] theorem stay_marks : stay.marks = [] := rfl
@[simp] theorem andThen_taken (w v : Way) : (w.andThen v).taken = w.taken + v.taken := rfl
@[simp] theorem andThen_marks (w v : Way) : (w.andThen v).marks = v.marks ++ w.marks := rfl

@[simp] theorem stay_andThen (w : Way) : stay.andThen w = w := by
  simp [andThen, stay]

@[simp] theorem andThen_stay (w : Way) : w.andThen stay = w := by
  simp [andThen, stay]

theorem andThen_assoc (u v w : Way) : (u.andThen v).andThen w = u.andThen (v.andThen w) := by
  simp [andThen, Nat.add_assoc]

end Way

/-- The ways to match, by the position and the text ahead. -/
abbrev Ways := Nat → Text → List Way

namespace Ways

/-- Nothing, and it always succeeds. -/
def stay : Ways := fun _ _ => [Way.stay]

/-- A way of `f` and behind it a way of `g`; the choice within `f` comes first. -/
def chain (f g : Ways) : Ways := fun pos t =>
  (f pos t).flatMap fun w => (g (pos + w.taken) (t.drop w.taken)).map w.andThen

/-- `f`, or else nothing; the other way round if it is lazy. -/
def orStay (greedy : Bool) (f : Ways) : Ways := fun pos t =>
  if greedy then f pos t ++ [Way.stay] else Way.stay :: f pos t

/-- One round of `f`, and up to `n` further rounds. -/
def rounds (greedy : Bool) (f : Ways) : Nat → Ways
  | 0 => f
  | n + 1 => chain f (orStay greedy (rounds greedy f n))

/-- No way takes more than there is. -/
def Bounded (f : Ways) : Prop := ∀ {pos t w}, w ∈ f pos t → w.taken ≤ t.length

/-- Every way takes a character. -/
def Consuming (f : Ways) : Prop := ∀ {pos t w}, w ∈ f pos t → 0 < w.taken

theorem mem_chain {f g : Ways} {pos t w} : w ∈ chain f g pos t ↔
    ∃ u ∈ f pos t, ∃ v ∈ g (pos + u.taken) (t.drop u.taken), u.andThen v = w := by
  simp only [chain, List.mem_flatMap, List.mem_map]

theorem mem_orStay {greedy : Bool} {f : Ways} {pos t w} :
    w ∈ orStay greedy f pos t ↔ w = Way.stay ∨ w ∈ f pos t := by
  cases greedy
  · simp [orStay]
  · simp [orStay, or_comm]

/-- Chains agree where their second parts agree behind every way of the first. -/
theorem chain_congr {f g h : Ways} {pos : Nat} {t : Text}
    (hw : ∀ w ∈ f pos t, g (pos + w.taken) (t.drop w.taken) = h (pos + w.taken) (t.drop w.taken)) :
    chain f g pos t = chain f h pos t := by
  simp only [chain, List.flatMap_def]
  congr 1
  apply List.map_congr_left
  intro w hmem
  rw [hw w hmem]

@[simp] theorem stay_chain (f : Ways) : chain stay f = f := by
  funext pos t
  have h : (Way.stay.andThen : Way → Way) = id := funext Way.stay_andThen
  simp [chain, stay, h]

@[simp] theorem chain_stay (f : Ways) : chain f stay = f := by
  funext pos t
  simp [chain, stay]

theorem chain_assoc (f g h : Ways) : chain (chain f g) h = chain f (chain g h) := by
  funext pos t
  simp only [chain, List.flatMap_assoc, List.map_flatMap, List.flatMap_map, List.map_map]
  congr 1
  funext u
  congr 1
  funext v
  have hpos : pos + (u.andThen v).taken = pos + u.taken + v.taken := by
    rw [Way.andThen_taken, Nat.add_assoc]
  have hdrop : t.drop (u.andThen v).taken = (t.drop u.taken).drop v.taken := by
    rw [Way.andThen_taken, List.drop_drop]
  rw [hpos, hdrop]
  congr 1
  funext w
  exact Way.andThen_assoc u v w

theorem append_chain (f g h : Ways) :
    chain (fun pos t => f pos t ++ g pos t) h = fun pos t => chain f h pos t ++ chain g h pos t := by
  funext pos t
  simp [chain]

theorem orStay_chain (greedy : Bool) (f g : Ways) : chain (orStay greedy f) g = fun pos t =>
    if greedy then chain f g pos t ++ g pos t else g pos t ++ chain f g pos t := by
  funext pos t
  have h : (Way.stay.andThen : Way → Way) = id := funext Way.stay_andThen
  cases greedy <;> simp [chain, orStay, h]

theorem chain_bounded {f g : Ways} (hf : Bounded f) (hg : Bounded g) : Bounded (chain f g) := by
  intro pos t w hw
  obtain ⟨u, hu, v, hv, rfl⟩ := mem_chain.1 hw
  have h1 := hf hu
  have h2 := hg hv
  rw [List.length_drop] at h2
  rw [Way.andThen_taken]
  omega

theorem orStay_bounded {greedy : Bool} {f : Ways} (hf : Bounded f) : Bounded (orStay greedy f) := by
  intro pos t w hw
  rcases mem_orStay.1 hw with rfl | hw
  · exact Nat.zero_le _
  · exact hf hw

theorem rounds_bounded {greedy : Bool} {f : Ways} (hf : Bounded f) (n : Nat) :
    Bounded (rounds greedy f n) := by
  induction n with
  | zero => exact hf
  | succ n ih => exact chain_bounded hf (orStay_bounded ih)

theorem chain_consuming_left {f g : Ways} (hf : Consuming f) : Consuming (chain f g) := by
  intro pos t w hw
  obtain ⟨u, hu, v, _, rfl⟩ := mem_chain.1 hw
  exact Nat.lt_of_lt_of_le (hf hu) (Nat.le_add_right _ _)

theorem chain_consuming_right {f g : Ways} (hg : Consuming g) : Consuming (chain f g) := by
  intro pos t w hw
  obtain ⟨u, _, v, hv, rfl⟩ := mem_chain.1 hw
  exact Nat.lt_of_lt_of_le (hg hv) (Nat.le_add_left _ _)

theorem rounds_consuming {greedy : Bool} {f : Ways} (hf : Consuming f) (n : Nat) :
    Consuming (rounds greedy f n) := by
  cases n with
  | zero => exact hf
  | succ n => exact chain_consuming_left hf

/-- Rounds that each take a character run out with the text: more of them find nothing new. -/
theorem rounds_of_length_le {greedy : Bool} {f : Ways} (hc : Consuming f) (hb : Bounded f) :
    ∀ {n m pos t}, t.length ≤ n → t.length ≤ m → rounds greedy f n pos t = rounds greedy f m pos t := by
  have hnil : ∀ n pos, rounds greedy f n pos [] = [] := by
    intro n pos
    rw [List.eq_nil_iff_forall_not_mem]
    intro w hw
    have h1 := rounds_bounded hb n hw
    have h2 := rounds_consuming hc n hw
    simp only [List.length_nil] at h1
    omega
  intro n
  induction n with
  | zero =>
    intro m pos t hn _
    rw [List.length_eq_zero_iff.1 (Nat.le_zero.1 hn), hnil, hnil]
  | succ n ih =>
    intro m pos t hn hm
    cases t with
    | nil => rw [hnil, hnil]
    | cons c t =>
      obtain ⟨m, rfl⟩ : ∃ k, m = k + 1 := ⟨m - 1, by simp only [List.length_cons] at hm; omega⟩
      simp only [List.length_cons] at hn hm
      refine chain_congr fun w hw => ?_
      have hpos := hc hw
      have hlen : ((c :: t).drop w.taken).length ≤ t.length := by
        rw [List.length_drop, List.length_cons]
        omega
      have hmore : rounds greedy f n (pos + w.taken) ((c :: t).drop w.taken) =
          rounds greedy f m (pos + w.taken) ((c :: t).drop w.taken) :=
        ih (Nat.le_trans hlen (by omega)) (Nat.le_trans hlen (by omega))
      simp only [orStay, hmore]

end Ways

namespace Expr

open Ways

/-- The ways of an expression, the preferred one first. What an expression sees around a position is
not part of this: `look` has no way here. -/
def ways : Expr → Ways
  | empty => Ways.stay
  | one set => fun _ t => match t with
    | [] => []
    | c :: _ => if set.has c then [⟨1, []⟩] else []
  | look _ => fun _ _ => []
  | mark slot => fun pos _ => [⟨0, [(slot, pos)]⟩]
  | seq a b => chain a.ways b.ways
  | either a b => fun pos t => a.ways pos t ++ b.ways pos t
  | rounds greedy a => fun pos t => Ways.rounds greedy a.ways t.length pos t

/-- Whether the expression cannot match without taking a character. -/
def consumes : Expr → Bool
  | one _ => true
  | empty | look _ | mark _ => false
  | seq a b => a.consumes || b.consumes
  | either a b => a.consumes && b.consumes
  | rounds _ a => a.consumes

/-- Whether every round of every repetition takes a character, and nothing is looked at. -/
def simple : Expr → Bool
  | empty | one _ | mark _ => true
  | look _ => false
  | seq a b | either a b => a.simple && b.simple
  | rounds _ a => a.simple && a.consumes

theorem ways_bounded (e : Expr) : Bounded e.ways := by
  induction e with
  | empty | look | mark => intro pos t w hw; simp_all [ways, Ways.stay]
  | one set =>
    intro pos t w hw
    cases t with
    | nil => simp [ways] at hw
    | cons c t =>
      by_cases h : set.has c = true
      · simp only [ways, h, if_true, List.mem_singleton] at hw
        subst hw
        simp
      · simp [ways, h] at hw
  | seq a b iha ihb => exact chain_bounded iha ihb
  | either a b iha ihb =>
    intro pos t w hw
    rcases List.mem_append.1 hw with h | h
    · exact iha h
    · exact ihb h
  | rounds greedy a ih => exact fun hw => rounds_bounded ih _ hw

theorem ways_consuming {e : Expr} (h : e.consumes = true) : Consuming e.ways := by
  induction e with
  | empty | look | mark => simp [consumes] at h
  | one set =>
    intro pos t w hw
    cases t with
    | nil => simp [ways] at hw
    | cons c t =>
      by_cases hc : set.has c = true
      · simp only [ways, hc, if_true, List.mem_singleton] at hw
        subst hw
        exact Nat.one_pos
      · simp [ways, hc] at hw
  | seq a b iha ihb =>
    rcases Bool.or_eq_true _ _ ▸ h with h | h
    · exact chain_consuming_left (iha h)
    · exact chain_consuming_right (ihb h)
  | either a b iha ihb =>
    simp only [consumes, Bool.and_eq_true] at h
    intro pos t w hw
    rcases List.mem_append.1 hw with hw | hw
    · exact iha h.1 hw
    · exact ihb h.2 hw
  | rounds greedy a ih => exact fun hw => rounds_consuming (ih h) _ hw

theorem ways_optional (greedy : Bool) (a : Expr) : (optional greedy a).ways = orStay greedy a.ways := by
  funext pos t
  cases greedy <;> rfl

/-- A repetition is one round, and then more rounds or none. -/
theorem ways_rounds {greedy : Bool} {a : Expr} (h : a.consumes = true) :
    (rounds greedy a).ways = chain a.ways (star greedy a).ways := by
  funext pos t
  have hc : Consuming a.ways := ways_consuming h
  have hb : Bounded a.ways := a.ways_bounded
  have hmore : (rounds greedy a).ways pos t = Ways.rounds greedy a.ways (t.length + 1) pos t :=
    rounds_of_length_le hc hb (Nat.le_refl _) (Nat.le_succ _)
  rw [hmore, star, ways_optional]
  refine chain_congr fun w hw => ?_
  have hlen : (t.drop w.taken).length ≤ t.length := by
    rw [List.length_drop]
    omega
  simp only [orStay, ways, rounds_of_length_le hc hb hlen (Nat.le_refl _)]

/-- Any number of rounds are none, or one and then any number. -/
theorem star_chain {greedy : Bool} {a : Expr} (h : a.consumes = true) (g : Ways) :
    chain (star greedy a).ways g = fun pos t =>
      if greedy then chain a.ways (chain (star greedy a).ways g) pos t ++ g pos t
      else g pos t ++ chain a.ways (chain (star greedy a).ways g) pos t := by
  have hstar : (star greedy a).ways = orStay greedy (chain a.ways (star greedy a).ways) := by
    rw [← ways_rounds h, star, ways_optional]
  conv => lhs; rw [hstar]
  rw [orStay_chain, chain_assoc]

end Expr

end Placeholder.Pattern
