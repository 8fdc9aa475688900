/-
Under which specifier a drawn number is shown. The generator of numbers reads the format at the end of its tag up to
the last closing bracket, and every clause is read up to the next one. So the two readers give one specifier as long
as that format has no closing bracket in it; otherwise the number is shown under more than an integer of the values
with the same clause is (`resolveTag_specifier`).

Where the clause spells no arguments of its own, and only ends in a tag that does, the clause may have a format in
front of that tag. Then it is this one that the clause is read with.
-/
import Placeholder.Proofs.Expansion.Generators
import Placeholder.Proofs.Tag.Parts

namespace Placeholder

namespace Clause

open Pattern

/-- A segment that is read as a part of a clause ends at the next closing bracket. -/
theorem FormatSegment.read_format {format : Option Text} {f : Text} (h : FormatSegment format f) :
    (read f).format = format.map (·.takeWhile (· ≠ ']')) := by
  cases h with
  | none => rw [read_eq_parts, parts]; rfl
  | some hword hspec =>
    rw [read_eq_parts, parts_of_partAhead? (partAhead?_format hword hspec)]
    rfl

/-- No digit continues a bracket to the word of a part. -/
theorem partAhead?_digit {d : Char} (h : Unicode.isDigit d = true) (t : Text) : partAhead? ('[' :: d :: t) = none := by
  have hopen : ∀ {word rest : Text} {c : Char}, word = '[' :: c :: rest → (CharSet.literal true c).has d = false →
      afterWord? word ('[' :: d :: t) = none := by
    rintro word rest c rfl hd
    rw [afterWord?, if_pos (CharSet.literal_self _), afterWord?, if_neg (by simp [hd])]
  have hletter : ∀ c ∈ ['f', 'd'], (CharSet.literal true c).has d = false := by
    intro c hc
    have hvariants : ∀ c' ∈ Unicode.caseVariants c, Unicode.isDigit c' = false := by
      have hall : ['f', 'd'].all (fun c => (Unicode.caseVariants c).all (!Unicode.isDigit ·)) = true := by
        decide +kernel
      intro c' hc'
      simpa using List.all_eq_true.1 (List.all_eq_true.1 hall c hc) c' hc'
    rw [CharSet.literal_eq, CharSet.has]
    refine Bool.eq_false_iff.2 fun hmem => ?_
    rw [hvariants d (List.contains_iff_mem.1 hmem)] at h
    cases h
  have hformat : formatWord = '[' :: 'f' :: "ormat:".toList := rfl
  have hdefault : defaultWord = '[' :: 'd' :: "efault:".toList := rfl
  rw [partAhead?, hopen hformat (hletter 'f' (by simp)), hopen hdefault (hletter 'd' (by simp))]
  rfl

theorem IsNumeral.no_opening {t : Text} (h : IsNumeral t) : '[' ∉ t := fun hmem =>
  absurd (h.2 '[' hmem) (by decide)

theorem SecondBound.no_opening {max : Option Text} {m : Text} (h : SecondBound max m) : '[' ∉ m := by
  cases h with
  | none => exact List.not_mem_nil
  | some hbefore hbehind hmax =>
    have hblank : Text.isBlank '[' = false := by decide
    simp only [List.mem_append, List.mem_cons, not_or]
    refine ⟨fun hmem => ?_, by decide, fun hmem => ?_, hmax.no_opening⟩
    · rw [hbefore _ hmem] at hblank
      cases hblank
    · rw [hbehind _ hmem] at hblank
      cases hblank

/-- Bounds, and behind their closing bracket the format: the bounds are no part of a clause. -/
theorem NumberClause.exists_segment {args : NumberArgs} {x : Text} (h : NumberClause args x) :
    ∃ y f, x = y ++ ']' :: f ∧ FormatSegment args.format f ∧ (read (y ++ [']'])).format = none := by
  obtain @⟨min, max, format, m, f, hmin, hm, hf⟩ := h
  refine ⟨':' :: '[' :: (min ++ m), f, by simp, hf, ?_⟩
  obtain ⟨d, digits, hd⟩ := List.exists_cons_of_ne_nil hmin.1
  have hmin' := hmin.no_opening
  have hdigit := hmin.2 d (hd ▸ List.mem_cons_self ..)
  have hparts : parts (':' :: '[' :: (min ++ m) ++ [']']) = [] := by
    have hrest : '[' ∉ min ++ m ++ [']'] := by simp [hmin', hm.no_opening]
    have hend := parts_of_no_opening hrest []
    rw [List.append_nil, parts.eq_1] at hend
    rw [List.cons_append, parts, partAhead?_cons_ne (by decide), List.cons_append, parts]
    rw [hd, List.cons_append, List.cons_append, partAhead?_digit hdigit]
    rw [hd, List.cons_append, List.cons_append] at hend
    exact hend
  rw [read_eq_parts, hparts]
  rfl

end Clause

namespace Builder

open Clause

variable {b : Builder} {s : Sources} {g : Tag}

/-- Draws a number between the bounds of arguments, and shows it under a specifier. -/
def drawUnder (supply : Generator.Supply) (args : NumberArgs) (spec : Text) : Run Text :=
  drawNumber supply spec { args with format := none }

/-- The specifier that the generator reads counts before the one of the clause. -/
theorem drawNumber_eq (supply : Generator.Supply) (format : Text) (args : NumberArgs) :
    drawNumber supply format args = drawUnder supply args (args.format.getD format) := rfl

/-- The arguments that are found stand at the end of the clause; their format is its last segment. -/
theorem exists_segment (hg : g ∈ Tag.all Tag.livePattern t) {args : NumberArgs}
    (hargs : numberArgs? (bareTag g Generator.numberKey) = some args) :
    ∃ y f, g.extended.getD [] = y ++ ']' :: f ∧ FormatSegment args.format f ∧
      (NumberClause args (g.extended.getD []) → (read (y ++ [']'])).format = none) := by
  by_cases hwhole : NumberClause args (g.extended.getD [])
  · obtain ⟨y, f, hx, hf, hnone⟩ := hwhole.exists_segment
    exact ⟨y, f, hx, hf, fun _ => hnone⟩
  · have hnone : ']' ∉ opening Generator.numberKey := by decide
    have hend := endsOnce_of_readsBack (Tag.readsBack_of_mem_all hg) hnone
    have hself : Pattern.Spelled (opening Generator.numberKey) (opening Generator.numberKey) :=
      Pattern.spelled_self fun c _ => Pattern.CharSet.literal_self c
    obtain ⟨head, hends, -⟩ := reads_number.endsIn_of_find hend hargs
    rcases (endsIn_opening_iff (by decide) hself).1 hends with ⟨-, hx⟩ | ⟨head', -, o, x, hclause, -, hx⟩
    · exact absurd hx hwhole
    · obtain ⟨y, f, rfl, hf, -⟩ := hx.exists_segment
      exact ⟨head' ++ (o ++ y), f, by rw [hclause]; simp, hf, fun h => absurd h hwhole⟩

/-- **The two readers of a format.** Let the arguments of a tag of the generator of numbers be accepted, and its
clause have a format. The number is shown under the specifier that the generator reads, if it reads one, where an
integer of the values with the same clause is shown under the format of the clause. In a live tag the two are one
exactly if there is no closing bracket in what the generator reads, and no other format in front of it; in a clause
that is the generator's own, none can be. -/
theorem resolveTag_specifier (b : Builder) (s : Sources) (hkey : (Secret.stripMarker g.key).1 = Generator.numberKey)
    {args : NumberArgs} (hargs : numberArgs? (bareTag g Generator.numberKey) = some args) {spec : Text}
    (hspec : (Clause.ofTag g).format = some spec) :
    Becomes b s g (drawUnder s.supply args (args.format.getD spec)) ∧
    (∀ h : Tag, h.extended = g.extended → isReserved (Secret.stripMarker h.key).1 = false →
      ∀ i, s.values.get? (Secret.stripMarker h.key).1 = some (.integer i) →
        Becomes b s h (liftM ((Value.integer i).format spec))) ∧
    ∀ t, g ∈ Tag.all Tag.livePattern t →
      ∃ before segment, g.extended.getD [] = before ++ segment ∧ FormatSegment args.format segment ∧
        (args.format.getD spec = spec ↔
          ∀ f, args.format = some f → ']' ∉ f ∧ ∀ f', (read before).format = some f' → f' = f) ∧
        (NumberClause args (g.extended.getD []) → (read before).format = none) := by
  refine ⟨becomes_of_resolveKey ?_, fun h hextended hreserved i hi => becomes_of_resolveKey ?_, fun t hg => ?_⟩
  · rw [hkey, resolveKey, if_pos (by decide), resolveReserved, if_neg (by decide), if_pos rfl, generateNumber_eq, hargs,
      hspec, ← drawNumber_eq]
    rfl
  · have hformat : (Clause.ofTag h).format = some spec := by rw [← hspec, Clause.ofTag, hextended, Clause.ofTag]
    rw [resolveKey, if_neg (by simp [hreserved]), hi, hformat]
    rfl
  · obtain ⟨y, segment, hclause, hsegment, hnone⟩ := exists_segment hg hargs
    have hread : (read (g.extended.getD [])).format = some spec := by
      rw [Clause.ofTag] at hspec
      cases hextended : g.extended with
      | none => rw [hextended] at hspec; cases hspec
      | some clause => rw [hextended] at hspec; exact hspec
    rw [hclause, read_append, hsegment.read_format] at hread
    refine ⟨y ++ [']'], segment, by rw [hclause]; simp, hsegment, ?_, hnone⟩
    cases hformat : args.format with
    | none => simp
    | some f =>
      rw [hformat] at hread
      cases hbefore : (read (y ++ [']'])).format with
      | none =>
        rw [hbefore] at hread
        obtain rfl : f.takeWhile (· ≠ ']') = spec := Option.some.inj hread
        simpa using eq_takeWhile_iff
      | some f' =>
        rw [hbefore] at hread
        obtain rfl : f' = spec := Option.some.inj hread
        have hbracket := no_bracket_of_read_format hbefore
        simp only [Option.getD_some, Option.some.injEq, forall_eq']
        exact ⟨fun h => ⟨h ▸ hbracket, h.symm⟩, fun h => h.2.symm⟩

/-- A bracket that opens in a format closes nothing: both readers read the same, with letters of any case. -/
theorem resolveTag_specifier_opening :
    let g : Tag := ⟨"$\x7bshasec:RandomNumber:[1 , 5][FORMAT:0[0]\x7d".toList, "shasec:RandomNumber".toList,
      some ":[1 , 5][FORMAT:0[0]".toList⟩
    let args : NumberArgs := ⟨['1'], some ['5'], some ['0', '[', '0']⟩
    g ∈ Tag.all Tag.livePattern g.raw ∧ (Secret.stripMarker g.key).1 = Generator.numberKey ∧
      numberArgs? (bareTag g Generator.numberKey) = some args ∧ (Clause.ofTag g).format = some ['0', '[', '0'] ∧
      Becomes {} {} g (drawUnder (fun _ => 0) args ['0', '[', '0']) := by
  intro g args
  have hall : Tag.segments Tag.livePattern g.raw = [.tag g] := by
    rw [Tag.livePattern_delimited.segments_eq_cut]
    cbv
  have hg : g ∈ Tag.all Tag.livePattern g.raw := by
    rw [Tag.all, hall]
    exact List.mem_singleton_self g
  have hkey : (Secret.stripMarker g.key).1 = Generator.numberKey := by decide +kernel
  have hargs : numberArgs? (bareTag g Generator.numberKey) = some args := by decide +kernel
  have hspec : (Clause.ofTag g).format = some ['0', '[', '0'] := by decide +kernel
  exact ⟨hg, hkey, hargs, hspec, (resolveTag_specifier {} {} hkey hargs hspec).1⟩

/-- A default behind the format, and the number is shown under both, brackets and all: `000` gives `007`. -/
theorem parse_default_in_specifier :
    let g : Tag := ⟨"$\x7brandomnumber:[7,8][format:000][default:0]\x7d".toList, "randomnumber".toList,
      some ":[7,8][format:000][default:0]".toList⟩
    g ∈ Tag.all Tag.livePattern g.raw ∧
      numberArgs? (bareTag g Generator.numberKey) = some ⟨['7'], some ['8'], some "000][default:0".toList⟩ ∧
      (Clause.ofTag g).format = some "000".toList ∧
      (Value.integer ⟨7, by decide⟩).format "000".toList = .ok "007".toList ∧
      ({} : Builder).parse {} true g.raw = .ok "000][default:7".toList := by
  intro g
  have hall : Tag.segments Tag.livePattern g.raw = [.tag g] := by
    rw [Tag.livePattern_delimited.segments_eq_cut]
    cbv
  have hg : g ∈ Tag.all Tag.livePattern g.raw := by
    rw [Tag.all, hall]
    exact List.mem_singleton_self g
  have hkey : (Secret.stripMarker g.key).1 = Generator.numberKey := by decide +kernel
  have hargs : numberArgs? (bareTag g Generator.numberKey) =
      some ⟨['7'], some ['8'], some "000][default:0".toList⟩ := by decide +kernel
  have hformat : (Clause.ofTag g).format = some "000".toList := by decide +kernel
  refine ⟨hg, hargs, hformat, by decide +kernel, parse_of_alone rfl (by decide) hall (k := ⟨[], 1⟩) ?_ (by decide) true⟩
  have hbecomes : Becomes {} {} g (drawNumber (fun _ => 0) "000".toList
      ⟨['7'], some ['8'], some "000][default:0".toList⟩) := by
    refine becomes_of_resolveKey ?_
    rw [hkey, resolveKey, if_pos (by decide), resolveReserved, if_neg (by decide), if_pos rfl, hformat,
      generateNumber_eq, hargs]
    rfl
  have hnumber : Generator.number (fun _ => 0) 0 7 (some 8) "000][default:0".toList = .ok "000][default:7".toList := by
    decide +kernel
  have hdrawn : drawNumber (fun _ => 0) "000".toList ⟨['7'], some ['8'], some "000][default:0".toList⟩ {} =
      (Generator.number (fun _ => 0) 0 7 (some 8) "000][default:0".toList).map fun t => (t, ⟨[], 1⟩) := rfl
  rw [hnumber] at hdrawn
  rw [hbecomes, Run.bind_ok hdrawn]
  rfl

end Builder

end Placeholder
