/-
**Cutting texts apart: separators, beginnings and occurrences.**

`MockLens/Text.lean` defines how a text is cut at separator characters and how a known beginning or
a pattern is found in it.  This module says what these operations do to a text that was put
together from parts, which is what the proofs about keys and signatures need.

Main results:

* `Text.splitNonEmpty_join` — cutting a joined list at the separator gives the non-empty segments of
  its members, in order;
* `Text.splitCharsBy_append_cons`, `Text.splitCharsBy_concat` — a separator keeps segments apart, and
  any other character belongs to the segment it stands at;
* `Text.cutFirst_append`, `Text.cutLast_append` — a text put together at a separator is cut into
  the two parts again;
* `Text.eq_of_cutFirst`, `Text.eq_of_cutLast` — and whatever is cut was put together so;
* `Text.dropPrefix?_eq_some_iff`, `Text.findSub_eq_none_iff`, `Text.exists_of_findSubChars` — a
  beginning and an occurrence, said without the search;
* `Text.cutFirst_lower`, `Text.startsWith_lower` — backslashes are found whatever the case;
* `Text.IsRun.takeWhile_eq` — the run of characters at a beginning;
* `Text.beforeByte_append` — the text before a byte offset.
-/
import MockLens.Text
import Mathlib.Data.List.Infix

set_option autoImplicit false

namespace MockLens

namespace Text

/-! ### Segments -/

theorem splitCharsBy_ne_nil (p : Char → Bool) (cs : List Char) : splitCharsBy p cs ≠ [] := by
  induction cs with
  | nil => simp [splitCharsBy]
  | cons x xs ih =>
      simp only [splitCharsBy]
      split
      · simp
      · split <;> simp

section Separators

variable {p : Char → Bool} {c : Char}

/-- A separator ends the segments before it and begins new ones. -/
theorem splitCharsBy_append_cons (hc : p c = true) (as bs : List Char) :
    splitCharsBy p (as ++ c :: bs) = splitCharsBy p as ++ splitCharsBy p bs := by
  induction as with
  | nil => simp [splitCharsBy, hc]
  | cons x xs ih =>
      simp only [List.cons_append, splitCharsBy, ih]
      split
      · simp
      · cases hseg : splitCharsBy p xs with
        | nil => exact absurd hseg (splitCharsBy_ne_nil _ _)
        | cons seg segs => simp

/-- A character that is no separator goes to the front of the first segment. -/
theorem splitCharsBy_cons (hc : p c = false) (cs : List Char) :
    ∃ seg segs, splitCharsBy p cs = seg :: segs ∧
      splitCharsBy p (c :: cs) = (c :: seg) :: segs := by
  cases hseg : splitCharsBy p cs with
  | nil => exact absurd hseg (splitCharsBy_ne_nil _ _)
  | cons seg segs => exact ⟨seg, segs, rfl, by simp [splitCharsBy, hc, hseg]⟩

/-- A character that is no separator goes to the end of the last segment. -/
theorem splitCharsBy_concat (hc : p c = false) (cs : List Char) :
    ∃ segs seg, splitCharsBy p cs = segs ++ [seg] ∧
      splitCharsBy p (cs ++ [c]) = segs ++ [seg ++ [c]] := by
  induction cs with
  | nil => exact ⟨[], [], by simp [splitCharsBy, hc]⟩
  | cons x xs ih =>
      obtain ⟨segs, seg, hxs, hconcat⟩ := ih
      rw [List.cons_append, splitCharsBy, splitCharsBy, hxs, hconcat]
      by_cases hx : p x = true
      · exact ⟨[] :: segs, seg, by simp [hx]⟩
      · cases segs with
        | nil => exact ⟨[], x :: seg, by simp [hx]⟩
        | cons first more => exact ⟨(x :: first) :: more, seg, by simp [hx]⟩

/-- A list without separators is its only segment. -/
theorem splitCharsBy_of_forall {cs : List Char} (h : ∀ c ∈ cs, p c = false) :
    splitCharsBy p cs = [cs] := by
  induction cs with
  | nil => rfl
  | cons x xs ih =>
      obtain ⟨hx, hxs⟩ := List.forall_mem_cons.1 h
      simp [splitCharsBy, hx, ih hxs]

end Separators

theorem splitChars_append_cons (c : Char) (as bs : List Char) :
    splitChars c (as ++ c :: bs) = splitChars c as ++ splitChars c bs := by
  refine splitCharsBy_append_cons ?_ as bs
  exact beq_self_eq_true c

/-- Characters that are no separators stay in front of the first segment. -/
theorem splitChars_append_of_notMem {c : Char} {pre : List Char} (hpre : c ∉ pre)
    {cs seg : List Char} {segs : List (List Char)} (hcs : splitChars c cs = seg :: segs) :
    splitChars c (pre ++ cs) = (pre ++ seg) :: segs := by
  induction pre with
  | nil => simpa using hcs
  | cons x xs ih =>
      obtain ⟨hx, hxs⟩ := List.ne_and_not_mem_of_not_mem_cons hpre
      have hsplit := ih hxs
      unfold splitChars at hsplit ⊢
      simp [splitCharsBy, Ne.symm hx, hsplit]

/-- A text without separators is its only segment. -/
theorem splitChars_of_notMem {c : Char} {cs : List Char} (h : c ∉ cs) :
    splitChars c cs = [cs] :=
  splitCharsBy_of_forall fun _ hx => beq_eq_false_iff_ne.2 fun hsame => h (hsame ▸ hx)

theorem mem_splitChars_notMem {c : Char} {cs seg : List Char} (h : seg ∈ splitChars c cs) :
    c ∉ seg := by
  unfold splitChars at h
  induction cs generalizing seg with
  | nil => simp_all [splitCharsBy]
  | cons x xs ih =>
      cases hseg : splitCharsBy (· == c) xs with
      | nil => exact absurd hseg (splitCharsBy_ne_nil _ _)
      | cons s segs =>
          by_cases hx : x = c
          · simp only [splitCharsBy, hx, beq_self_eq_true, if_true, List.mem_cons] at h
            rcases h with rfl | h
            · simp
            · exact ih h
          · simp only [splitCharsBy, beq_iff_eq, hx, if_false, hseg, List.mem_cons] at h
            rcases h with rfl | h
            · have hs : c ∉ s := ih (by simp [hseg])
              simp [Ne.symm hx, hs]
            · exact ih (by simp [hseg, h])

/-- The first segment begins the text, and every other one is a part of it. -/
theorem splitChars_parts {c : Char} {cs seg : List Char} {segs : List (List Char)}
    (h : splitChars c cs = seg :: segs) : seg <+: cs ∧ ∀ s ∈ segs, s <:+: cs := by
  unfold splitChars at h
  induction cs generalizing seg segs with
  | nil => simp_all [splitCharsBy]
  | cons x xs ih =>
      cases hseg : splitCharsBy (· == c) xs with
      | nil => exact absurd hseg (splitCharsBy_ne_nil _ _)
      | cons s ss =>
          obtain ⟨hfirst, hrest⟩ := ih hseg
          by_cases hx : x = c
          · simp only [splitCharsBy, hx, beq_self_eq_true, if_true, hseg, List.cons.injEq] at h
            obtain ⟨rfl, rfl⟩ := h
            refine ⟨List.nil_prefix, fun t ht => ?_⟩
            rcases List.mem_cons.1 ht with rfl | ht
            · exact hfirst.isInfix.trans (List.infix_cons (List.infix_refl _))
            · exact List.infix_cons (hrest t ht)
          · simp only [splitCharsBy, beq_iff_eq, hx, if_false, hseg, List.cons.injEq] at h
            obtain ⟨rfl, rfl⟩ := h
            exact ⟨List.cons_prefix_cons.2 ⟨rfl, hfirst⟩, fun t ht => List.infix_cons (hrest t ht)⟩

/-- A segment is a part of the text. -/
theorem mem_splitChars_isInfix {c : Char} {cs seg : List Char} (h : seg ∈ splitChars c cs) :
    seg <:+: cs := by
  cases hseg : splitChars c cs with
  | nil => simp [hseg] at h
  | cons s segs =>
      obtain ⟨hfirst, hrest⟩ := splitChars_parts hseg
      rcases List.mem_cons.1 (hseg ▸ h) with rfl | h
      · exact hfirst.isInfix
      · exact hrest seg h

/-! ### Segments as texts -/

theorem split_eq_cons (c : Char) (s : String) : ∃ seg segs, split c s = seg :: segs := by
  cases hsplit : splitChars c s.toList with
  | nil => exact absurd hsplit (splitCharsBy_ne_nil _ _)
  | cons seg segs => exact ⟨String.ofList seg, segs.map String.ofList, by simp [split, hsplit]⟩

theorem mem_split_notMem {c : Char} {s seg : String} (h : seg ∈ split c s) : c ∉ seg.toList := by
  obtain ⟨cs, hcs, rfl⟩ := List.mem_map.1 h
  simpa using mem_splitChars_notMem hcs

theorem mem_split_isInfix {c : Char} {s seg : String} (h : seg ∈ split c s) :
    seg.toList <:+: s.toList := by
  obtain ⟨cs, hcs, rfl⟩ := List.mem_map.1 h
  simpa using mem_splitChars_isInfix hcs

/-- A text without separators stays in front of the first segment of what follows it. -/
theorem split_append_of_notMem {c : Char} {pre : String} (hpre : c ∉ pre.toList)
    {s seg : String} {segs : List String} (hs : split c s = seg :: segs) :
    split c (pre ++ s) = (pre ++ seg) :: segs := by
  cases hsplit : splitChars c s.toList with
  | nil => exact absurd hsplit (splitCharsBy_ne_nil _ _)
  | cons x xs =>
      rw [split, hsplit, List.map_cons, List.cons.injEq] at hs
      obtain ⟨rfl, rfl⟩ := hs
      rw [split, String.toList_append, splitChars_append_of_notMem hpre hsplit, List.map_cons,
        String.ofList_append, String.ofList_toList]

/-! ### Non-empty segments -/

/-- The non-empty segments of a text are those of its characters, as texts. -/
theorem splitNonEmpty_eq (c : Char) (s : String) :
    splitNonEmpty c s = ((splitChars c s.toList).filter (· ≠ [])).map String.ofList := by
  unfold splitNonEmpty split
  rw [List.filter_map]
  congr 1
  refine List.filter_congr fun seg _ => ?_
  cases seg <;> simp [← String.toList_inj]

@[simp] theorem splitNonEmpty_empty (c : Char) : splitNonEmpty c "" = [] := by
  simp [splitNonEmpty_eq, splitChars, splitCharsBy]

/-- Cutting at a separator between two texts gives the segments of both. -/
theorem splitNonEmpty_append (c : Char) (a b : String) :
    splitNonEmpty c (a ++ String.singleton c ++ b) = splitNonEmpty c a ++ splitNonEmpty c b := by
  have htext : (a ++ String.singleton c ++ b).toList = a.toList ++ c :: b.toList := by simp
  simp only [splitNonEmpty_eq, htext, splitChars_append_cons, List.filter_append, List.map_append]

/-- **Cutting a joined list at the separator gives the segments of its members, in order.** -/
theorem splitNonEmpty_join (c : Char) (parts : List String) :
    splitNonEmpty c ((String.singleton c).intercalate parts)
      = parts.flatMap (splitNonEmpty c) := by
  induction parts with
  | nil => simp
  | cons p ps ih =>
      cases ps with
      | nil => simp
      | cons q qs => rw [String.intercalate_cons_cons, splitNonEmpty_append, ih]; rfl

/-- A text without separators is its only segment, unless it is empty. -/
theorem splitNonEmpty_of_notMem {c : Char} {s : String} (h : c ∉ s.toList) :
    splitNonEmpty c s = if s = "" then [] else [s] := by
  rw [splitNonEmpty_eq, splitChars_of_notMem h]
  by_cases hs : s = ""
  · simp [hs]
  · have hne : s.toList ≠ [] := fun hl => hs (String.toList_inj.1 hl)
    simp [hs, hne]

theorem ne_empty_and_notMem_of_mem_splitNonEmpty {c : Char} {s seg : String}
    (h : seg ∈ splitNonEmpty c s) : seg ≠ "" ∧ c ∉ seg.toList := by
  obtain ⟨hseg, hne⟩ := List.mem_filter.1 h
  exact ⟨by simpa using hne, mem_split_notMem hseg⟩

/-! ### Cuts -/

theorem cutFirstChars_append {c : Char} {pre : List Char} (h : c ∉ pre) (rest : List Char) :
    cutFirstChars c (pre ++ c :: rest) = some (pre, rest) := by
  induction pre with
  | nil => simp [cutFirstChars]
  | cons x xs ih =>
      obtain ⟨hx, hxs⟩ := List.ne_and_not_mem_of_not_mem_cons h
      simp [cutFirstChars, Ne.symm hx, ih hxs]

/-- A text is cut at its first separator. -/
theorem cutFirst_append {c : Char} {a : String} (h : c ∉ a.toList) (b : String) :
    cutFirst c (a ++ String.singleton c ++ b) = some (a, b) := by
  simp [cutFirst, cutFirstChars_append h]

theorem isSome_cutFirstChars_iff {c : Char} {cs : List Char} :
    (cutFirstChars c cs).isSome = true ↔ c ∈ cs := by
  induction cs with
  | nil => simp [cutFirstChars]
  | cons x xs ih =>
      by_cases hx : x = c
      · simp [cutFirstChars, hx]
      · simp [cutFirstChars, hx, Ne.symm hx, ih]

theorem isSome_cutFirst_iff {c : Char} {s : String} :
    (cutFirst c s).isSome = true ↔ c ∈ s.toList := by
  rw [cutFirst, Option.isSome_map, isSome_cutFirstChars_iff]

theorem eq_of_cutFirstChars {c : Char} {cs pre rest : List Char}
    (h : cutFirstChars c cs = some (pre, rest)) : cs = pre ++ c :: rest ∧ c ∉ pre := by
  induction cs generalizing pre with
  | nil => simp [cutFirstChars] at h
  | cons x xs ih =>
      by_cases hx : x = c
      · obtain ⟨rfl, rfl⟩ : [] = pre ∧ xs = rest := by simpa [cutFirstChars, hx] using h
        simp [hx]
      · rw [cutFirstChars, if_neg (by simpa using hx)] at h
        obtain ⟨⟨pre', rest'⟩, hcut, hparts⟩ := Option.map_eq_some_iff.1 h
        obtain ⟨rfl, rfl⟩ : x :: pre' = pre ∧ rest' = rest := by simpa using hparts
        obtain ⟨hxs, hpre⟩ := ih hcut
        exact ⟨by rw [List.cons_append, ← hxs], by simp [Ne.symm hx, hpre]⟩

/-- The parts of a text cut at its first separator make it up, and the first one holds none. -/
theorem eq_of_cutFirst {c : Char} {s a b : String} (h : cutFirst c s = some (a, b)) :
    s = a ++ String.singleton c ++ b ∧ c ∉ a.toList := by
  obtain ⟨⟨pre, rest⟩, hcut, hparts⟩ := Option.map_eq_some_iff.1 h
  obtain ⟨rfl, rfl⟩ : String.ofList pre = a ∧ String.ofList rest = b := by simpa using hparts
  obtain ⟨hs, hpre⟩ := eq_of_cutFirstChars hcut
  exact ⟨String.toList_inj.1 (by simp [hs]), by simpa using hpre⟩

theorem cutLastChars_eq_none_iff {c : Char} {cs : List Char} :
    cutLastChars c cs = none ↔ c ∉ cs := by
  induction cs with
  | nil => simp [cutLastChars]
  | cons x xs ih =>
      cases hcut : cutLastChars c xs with
      | none =>
          have hxs : c ∉ xs := ih.1 hcut
          by_cases hx : x = c
          · simp [cutLastChars, hcut, hx]
          · simp [cutLastChars, hcut, hx, Ne.symm hx, hxs]
      | some parts =>
          have hxs : c ∈ xs := by
            by_contra hno
            simp [ih.2 hno] at hcut
          simp [cutLastChars, hcut, hxs]

theorem cutLastChars_append {c : Char} {rest : List Char} (h : c ∉ rest) (pre : List Char) :
    cutLastChars c (pre ++ c :: rest) = some (pre, rest) := by
  induction pre with
  | nil => simp [cutLastChars, cutLastChars_eq_none_iff.2 h]
  | cons x xs ih => simp [cutLastChars, ih]

/-- A text is cut at its last separator. -/
theorem cutLast_append {c : Char} {b : String} (h : c ∉ b.toList) (a : String) :
    cutLast c (a ++ String.singleton c ++ b) = some (a, b) := by
  simp [cutLast, cutLastChars_append h]

theorem eq_of_cutLastChars {c : Char} {cs pre rest : List Char}
    (h : cutLastChars c cs = some (pre, rest)) : cs = pre ++ c :: rest ∧ c ∉ rest := by
  induction cs generalizing pre with
  | nil => simp [cutLastChars] at h
  | cons x xs ih =>
      cases hcut : cutLastChars c xs with
      | some parts =>
          rw [cutLastChars, hcut] at h
          obtain ⟨rfl, rfl⟩ : x :: parts.1 = pre ∧ parts.2 = rest := by simpa using h
          obtain ⟨hxs, hrest⟩ := ih hcut
          exact ⟨by rw [List.cons_append, ← hxs], hrest⟩
      | none =>
          rw [cutLastChars, hcut] at h
          by_cases hx : x = c
          · obtain ⟨rfl, rfl⟩ : [] = pre ∧ xs = rest := by simpa [hx] using h
            exact ⟨by rw [hx, List.nil_append], cutLastChars_eq_none_iff.1 hcut⟩
          · simp [hx] at h

/-- The parts of a cut text make it up, and the last one holds no separator. -/
theorem eq_of_cutLast {c : Char} {s a b : String} (h : cutLast c s = some (a, b)) :
    s = a ++ String.singleton c ++ b ∧ c ∉ b.toList := by
  obtain ⟨⟨pre, rest⟩, hcut, hparts⟩ := Option.map_eq_some_iff.1 h
  obtain ⟨rfl, rfl⟩ : String.ofList pre = a ∧ String.ofList rest = b := by simpa using hparts
  obtain ⟨hs, hrest⟩ := eq_of_cutLastChars hcut
  exact ⟨String.toList_inj.1 (by simp [hs]), by simpa using hrest⟩

/-! ### Beginnings and occurrences -/

theorem dropPrefixChars?_eq_some_iff {pre cs rest : List Char} :
    dropPrefixChars? pre cs = some rest ↔ cs = pre ++ rest := by
  induction pre generalizing cs with
  | nil => simp [dropPrefixChars?, eq_comm]
  | cons p ps ih =>
      cases cs with
      | nil => simp [dropPrefixChars?]
      | cons c cs =>
          by_cases hpc : p = c
          · simp [dropPrefixChars?, hpc, ih]
          · simp [dropPrefixChars?, hpc, Ne.symm hpc]

/-- What follows a known beginning. -/
theorem dropPrefix?_eq_some_iff {pre s rest : String} :
    dropPrefix? pre s = some rest ↔ s = pre ++ rest := by
  simp only [dropPrefix?, Option.map_eq_some_iff, dropPrefixChars?_eq_some_iff,
    ← String.toList_inj, String.toList_append, String.toList_ofList]
  exact ⟨fun ⟨cs, hs, hcs⟩ => hcs ▸ hs, fun h => ⟨rest.toList, h, rfl⟩⟩

theorem dropPrefix?_eq_none_iff {pre s : String} :
    dropPrefix? pre s = none ↔ ∀ rest, s ≠ pre ++ rest := by
  simp only [Option.eq_none_iff_forall_ne_some, ne_eq, dropPrefix?_eq_some_iff]

/-- A text starts with `pre` exactly when it is `pre` and something behind it. -/
theorem startsWith_iff {pre s : String} : startsWith pre s = true ↔ ∃ rest, s = pre ++ rest := by
  simp only [startsWith, Option.isSome_iff_exists, dropPrefixChars?_eq_some_iff,
    ← String.toList_inj, String.toList_append]
  exact ⟨fun ⟨cs, h⟩ => ⟨String.ofList cs, by simpa using h⟩, fun ⟨r, h⟩ => ⟨r.toList, h⟩⟩

theorem dropPrefix?_eq_none {pre s : String} (h : startsWith pre s = false) :
    dropPrefix? pre s = none := by
  rw [dropPrefix?_eq_none_iff]
  intro rest hrest
  rw [startsWith_iff.2 ⟨rest, hrest⟩] at h
  cases h

theorem findSubChars_eq_none_iff {pat cs : List Char} :
    findSubChars pat cs = none ↔ ¬ pat <:+: cs := by
  induction cs with
  | nil => cases pat <;> simp [findSubChars]
  | cons c cs ih =>
      have hprefix : (dropPrefixChars? pat (c :: cs)).isSome = true ↔ pat <+: c :: cs := by
        simp only [Option.isSome_iff_exists, dropPrefixChars?_eq_some_iff]
        exact ⟨fun ⟨r, h⟩ => ⟨r, h.symm⟩, fun ⟨r, h⟩ => ⟨r, h.symm⟩⟩
      by_cases hp : pat <+: c :: cs
      · simp [findSubChars, hprefix.2 hp, hp.isInfix]
      · rw [List.infix_cons_iff]
        simp [findSubChars, hprefix, hp, ih]

/-- A pattern is found where it occurs first. -/
theorem exists_of_findSubChars {pat cs found : List Char} (h : findSubChars pat cs = some found) :
    ∃ front, cs = front ++ found ∧ pat <+: found ∧
      ∀ other rest, cs = other ++ pat ++ rest → front <+: other := by
  induction cs with
  | nil =>
      have hpat : pat = [] := by
        by_contra hne
        simp [findSubChars, hne] at h
      refine ⟨[], ?_, ?_, fun _ _ _ => List.nil_prefix⟩
      · simpa [findSubChars, hpat] using h
      · rw [hpat]
        exact List.nil_prefix
  | cons c cs ih =>
      unfold findSubChars at h
      split at h
      · rename_i hdrop
        obtain ⟨rest, hrest⟩ := Option.isSome_iff_exists.1 hdrop
        rw [dropPrefixChars?_eq_some_iff] at hrest
        obtain rfl := Option.some.inj h
        exact ⟨[], rfl, ⟨rest, hrest.symm⟩, fun _ _ _ => List.nil_prefix⟩
      · rename_i hdrop
        obtain ⟨front, rfl, hfound, hfirst⟩ := ih h
        refine ⟨c :: front, rfl, hfound, fun other rest hother => ?_⟩
        cases other with
        | nil =>
            refine absurd (Option.isSome_iff_exists.2 ⟨rest, ?_⟩) hdrop
            rwa [dropPrefixChars?_eq_some_iff]
        | cons d other =>
            obtain ⟨rfl, htail⟩ := List.cons.inj hother
            exact List.cons_prefix_cons.2 ⟨rfl, hfirst other rest htail⟩

/-- A pattern is not found exactly when it does not occur. -/
theorem findSub_eq_none_iff {pat s : String} :
    findSub pat s = none ↔ ¬ pat.toList <:+: s.toList := by
  simp [findSub, findSubChars_eq_none_iff]

theorem hasSub_eq_false_iff {pat s : String} :
    hasSub pat s = false ↔ ¬ pat.toList <:+: s.toList := by
  rw [← findSubChars_eq_none_iff, hasSub]
  cases findSubChars pat.toList s.toList <;> simp

/-- A pattern at the beginning is found there. -/
theorem findSub_append (pat rest : String) (h : pat ≠ "") :
    findSub pat (pat ++ rest) = some (pat ++ rest) := by
  have hdrop : dropPrefixChars? pat.toList (pat ++ rest).toList = some rest.toList :=
    dropPrefixChars?_eq_some_iff.2 (by simp)
  cases hpat : pat.toList with
  | nil => exact absurd (String.toList_inj.1 (by simpa using hpat)) h
  | cons p ps =>
      rw [hpat] at hdrop
      simp only [findSub, String.toList_append, hpat, List.cons_append] at hdrop ⊢
      simp only [findSubChars, hdrop, Option.isSome_some, if_true, Option.map_some]
      rw [← List.cons_append, ← hpat, ← String.toList_append, String.ofList_toList]

/-! ### Trimming -/

section Trimming

variable {p : Char → Bool} {c : Char}

theorem trimBoth_cons (hc : p c = true) (cs : List Char) :
    trimBoth p (String.ofList (c :: cs)) = trimBoth p (String.ofList cs) := by
  simp [trimBoth, hc]

theorem trimBoth_concat (hc : p c = true) (cs : List Char) :
    trimBoth p (String.ofList (cs ++ [c])) = trimBoth p (String.ofList cs) := by
  simp only [trimBoth, String.toList_ofList, List.dropWhile_append]
  split
  · rename_i hempty
    have hnil : cs.dropWhile p = [] := by simpa using hempty
    simp [hc, hnil]
  · simp [trimEndChars, hc]

/-- Nothing is trimmed from a text without characters of that kind. -/
theorem trimBoth_of_forall {s : String} (h : ∀ c ∈ s.toList, p c = false) : trimBoth p s = s := by
  have hkept : ∀ cs : List Char, (∀ c ∈ cs, p c = false) → cs.dropWhile p = cs := by
    intro cs hcs
    cases cs with
    | nil => rfl
    | cons c cs => simp [hcs c List.mem_cons_self]
  have hreverse : s.toList.reverse.dropWhile p = s.toList.reverse :=
    hkept _ fun c hc => h c (List.mem_reverse.1 hc)
  rw [trimBoth, hkept _ h, trimEndChars, hreverse, List.reverse_reverse, String.ofList_toList]

end Trimming

/-! ### Up to ASCII case -/

/-- Only a backslash turns into one. -/
theorem toLower_eq_backslash_iff {c : Char} : c.toLower = '\\' ↔ c = '\\' := by
  constructor
  · intro h
    unfold Char.toLower at h
    split at h
    · rename_i hupper
      obtain ⟨hfirst, hlast⟩ : 65 ≤ c.val.toNat ∧ c.val.toNat ≤ 90 := hupper
      have hval : (c.val.toNat + 32) % 2 ^ 32 = 92 := congrArg (fun d => d.val.toNat) h
      omega
    · exact h
  · rintro rfl
    decide

theorem lower_append (a b : String) : lower (a ++ b) = lower a ++ lower b := by
  simp [lower]

theorem sameFold_iff {a b : String} : sameFold a b = true ↔ lower a = lower b := beq_iff_eq

theorem cutFirstChars_map_toLower (cs : List Char) :
    cutFirstChars '\\' (cs.map Char.toLower)
      = (cutFirstChars '\\' cs).map fun parts =>
          (parts.1.map Char.toLower, parts.2.map Char.toLower) := by
  induction cs with
  | nil => rfl
  | cons c cs ih =>
      by_cases hc : c = '\\'
      · simp [cutFirstChars, hc, toLower_eq_backslash_iff.2]
      · have hlower : ¬c.toLower = '\\' := fun h => hc (toLower_eq_backslash_iff.1 h)
        simp [cutFirstChars, hc, hlower, ih, Function.comp_def]

/-- Where a text is cut at a backslash does not depend on its case. -/
theorem cutFirst_lower (s : String) :
    cutFirst '\\' (lower s)
      = (cutFirst '\\' s).map fun parts => (lower parts.1, lower parts.2) := by
  simp [cutFirst, lower, cutFirstChars_map_toLower, Function.comp_def]

theorem startsWith_lower (s : String) : startsWith "\\" (lower s) = startsWith "\\" s := by
  rw [startsWith, startsWith, lower, String.toList_ofList]
  cases s.toList with
  | nil => rfl
  | cons c cs =>
      by_cases hc : c = '\\'
      · simp [dropPrefixChars?, hc, toLower_eq_backslash_iff.2]
      · have hlower : '\\' ≠ c.toLower := fun h => hc (toLower_eq_backslash_iff.1 h.symm)
        simp [dropPrefixChars?, Ne.symm hc, hlower]

/-! ### Runs -/

/-- A list begins with a run of the characters `p` accepts, up to `rest`. -/
structure IsRun (p : Char → Bool) (run rest : List Char) : Prop where
  run : ∀ c ∈ run, p c = true
  rest : ∀ c ∈ rest.head?, p c = false

namespace IsRun

variable {p : Char → Bool} {run rest : List Char}

theorem takeWhile_eq (h : IsRun p run rest) : (run ++ rest).takeWhile p = run := by
  rw [List.takeWhile_append_of_pos h.run]
  cases rest with
  | nil => simp
  | cons c cs =>
      have hc : p c = false := h.rest c rfl
      simp [hc]

theorem dropWhile_eq (h : IsRun p run rest) : (run ++ rest).dropWhile p = rest := by
  rw [List.dropWhile_append_of_pos h.run]
  cases rest with
  | nil => rfl
  | cons c cs =>
      have hc : p c = false := h.rest c rfl
      simp [hc]

end IsRun

theorem isRun_takeWhile (p : Char → Bool) (cs : List Char) :
    IsRun p (cs.takeWhile p) (cs.dropWhile p) := by
  refine ⟨List.all_eq_true.1 List.all_takeWhile, fun c hc => ?_⟩
  have hstop := List.head?_dropWhile_not p cs
  rw [Option.mem_def.1 hc] at hstop
  exact hstop

/-! ### Byte lengths -/

theorem foldl_utf8Size (cs : List Char) (n : Nat) :
    cs.foldl (fun n c => n + c.utf8Size) n = n + byteLength cs := by
  unfold byteLength
  induction cs generalizing n with
  | nil => rfl
  | cons c cs ih =>
      rw [List.foldl_cons, List.foldl_cons, ih (n + c.utf8Size), ih (0 + c.utf8Size)]
      omega

@[simp] theorem byteLength_nil : byteLength [] = 0 := rfl

@[simp] theorem byteLength_cons (c : Char) (cs : List Char) :
    byteLength (c :: cs) = c.utf8Size + byteLength cs := by
  rw [byteLength, List.foldl_cons, foldl_utf8Size]
  omega

@[simp] theorem byteLength_append (as bs : List Char) :
    byteLength (as ++ bs) = byteLength as + byteLength bs := by
  rw [byteLength, List.foldl_append, foldl_utf8Size]
  rfl

@[simp] theorem byteLength_reverse (cs : List Char) : byteLength cs.reverse = byteLength cs := by
  induction cs with
  | nil => rfl
  | cons c cs ih =>
      rw [List.reverse_cons, byteLength_append, ih, byteLength_cons, byteLength_cons]
      simp [Nat.add_comm]

theorem length_le_byteLength (cs : List Char) : cs.length ≤ byteLength cs := by
  induction cs with
  | nil => exact Nat.le_refl 0
  | cons c cs ih =>
      rw [List.length_cons, byteLength_cons]
      have hpos := c.utf8Size_pos
      omega

theorem byteLength_eq_zero_iff {cs : List Char} : byteLength cs = 0 ↔ cs = [] := by
  refine ⟨fun h => ?_, fun h => h ▸ rfl⟩
  have hlength := length_le_byteLength cs
  exact List.eq_nil_of_length_eq_zero (by omega)

/-- Of two beginnings of a text the one with fewer bytes is a beginning of the other. -/
theorem prefix_of_byteLength_le {text as bs : List Char} (ha : as <+: text) (hb : bs <+: text)
    (h : byteLength as ≤ byteLength bs) : as <+: bs := by
  rcases List.prefix_or_prefix_of_prefix ha hb with hprefix | ⟨rest, rfl⟩
  · exact hprefix
  · rw [byteLength_append] at h
    obtain rfl : rest = [] := byteLength_eq_zero_iff.1 (by omega)
    rw [List.append_nil]

theorem cutBytes_append (before pre rest : List Char) :
    cutBytes before (byteLength pre) (pre ++ rest) = (pre.reverse ++ before, rest) := by
  induction pre generalizing before with
  | nil =>
      cases rest with
      | nil => rfl
      | cons c cs =>
          have hc : ¬ c.utf8Size ≤ 0 := Nat.not_le.2 c.utf8Size_pos
          simp [cutBytes, hc]
  | cons c pre ih =>
      rw [List.cons_append, byteLength_cons, cutBytes, if_pos (Nat.le_add_right ..),
        Nat.add_sub_cancel_left, ih]
      simp

/-- The text before the byte offset at which its first part ends is that part. -/
theorem beforeByte_append (pre rest : List Char) :
    beforeByte (byteLength pre) (pre ++ rest) = pre.reverse := by
  rw [beforeByte, cutBytes_append, List.append_nil]

end Text

end MockLens
