/-
**URIs of files: which of them the scan writes.**

A file has many URIs: a reader of URIs keeps the percent-encoded sequences it is given, and every
character of a path may be written as one.  The scan of a workspace names a file by one of them, in
which a fixed set of characters is encoded and no other (`Uri.ofPath`).  What all URIs of a file have
in common is the path behind them, so the texts are compared by what they decode to: the text of a
location decodes to the text of a path, and its steps are told from that.

Main definitions:

* `Uri.pathText` — the location the scan writes for the steps of a path;
* `Uri.IsPlain` — a URI whose location is written so, with nothing behind it.

Main results:

* `Uri.percentDecode_percentEncode` — what is encoded decodes to its bytes;
* `Path.steps_ofSteps` — a path is made of its steps;
* `Uri.text_of_filePath?` — the text of a URI that has a path;
* `Uri.ofPath_eq_ofPath_iff` — two absolute paths have one URI if they have the same steps;
* `Uri.ofPath_eq_text_iff` — **which URIs the scan writes for their path**.
-/
import MockLens.Uri
import MockLens.Proofs.Text
import MockLens.Proofs.Utf8

set_option autoImplicit false

namespace MockLens

/-! ### Percent-encoded text -/

namespace Uri

theorem percentDecode_cons_of_ne {c : Char} (h : c ≠ '%') (cs : List Char) :
    percentDecode (c :: cs) = String.utf8EncodeChar c ++ percentDecode cs := by
  rw [percentDecode.eq_def]
  simp [h]

theorem hexDigit?_toUpper_hexDigit {n : Nat} (h : n < 16) :
    Text.hexDigit? (Text.hexDigit n).toUpper = some n := by
  revert n
  decide

theorem percentDecode_encodeByte (b : UInt8) (rest : List Char) :
    percentDecode (encodeByte b ++ rest) = b :: percentDecode rest := by
  have hb : b.toNat < 256 := b.toNat_lt
  have hhigh := hexDigit?_toUpper_hexDigit (n := b.toNat / 16) (by omega)
  have hlow := hexDigit?_toUpper_hexDigit (n := b.toNat % 16) (by omega)
  have hbyte : UInt8.ofNat (16 * (b.toNat / 16) + b.toNat % 16) = b := by
    rw [Nat.div_add_mod, UInt8.ofNat_toNat]
  simp only [encodeByte, List.cons_append, List.nil_append]
  rw [percentDecode]
  simp [hhigh, hlow, hbyte]

theorem percentDecode_flatMap_encodeByte (bytes : List UInt8) (rest : List Char) :
    percentDecode (bytes.flatMap encodeByte ++ rest) = bytes ++ percentDecode rest := by
  induction bytes with
  | nil => rfl
  | cons b bytes ih =>
      rw [List.flatMap_cons, List.append_assoc, percentDecode_encodeByte, ih, List.cons_append]

/-- What is encoded decodes to its bytes, if percent signs are encoded too. -/
theorem percentDecode_percentEncode {p : Char → Bool} (hp : p '%' = true) (cs rest : List Char) :
    percentDecode (percentEncode p cs ++ rest) = Utf8.encode cs ++ percentDecode rest := by
  induction cs with
  | nil => rfl
  | cons c cs ih =>
      rw [percentEncode, List.flatMap_cons, ← percentEncode, List.append_assoc, Utf8.encode,
        List.flatMap_cons, ← Utf8.encode, List.append_assoc, ← ih]
      by_cases hc : p c = true
      · rw [if_pos hc, percentDecode_flatMap_encodeByte]
      · have hne : c ≠ '%' := fun h => hc (h ▸ hp)
        rw [if_neg hc, List.singleton_append, percentDecode_cons_of_ne hne]

end Uri

/-! ### Steps of paths -/

namespace Path

/-- A step that a path can have: a name is not empty, has no slash in it, and is not one of those
that stand for a directory. -/
def Step.IsProper : Step → Prop
  | up => True
  | into name => name ≠ "" ∧ name ≠ "." ∧ name ≠ ".." ∧ '/' ∉ name.toList

theorem isProper_of_mem_steps {p : Path} {s : Step} (h : s ∈ p.steps) : s.IsProper := by
  obtain ⟨name, hname, hs⟩ := List.mem_filterMap.1 h
  have hslash := Text.mem_split_notMem hname
  split at hs
  · cases hs
  · obtain rfl := Option.some.inj hs
    split
    · trivial
    · simp_all [Step.IsProper]

theorem steps_append (a b : String) :
    (Path.mk (a ++ "/" ++ b)).steps = (Path.mk a).steps ++ (Path.mk b).steps := by
  have hsplit : Text.split '/' (a ++ "/" ++ b) = Text.split '/' a ++ Text.split '/' b := by
    rw [Text.split, Text.split, Text.split, ← List.map_append, ← Text.splitChars_append_cons]
    simp
  rw [steps, steps, steps, hsplit, List.filterMap_append]

theorem Step.IsProper.steps_text {s : Step} (h : s.IsProper) : (Path.mk s.text).steps = [s] := by
  cases s with
  | up => rfl
  | into name =>
      obtain ⟨hempty, hhere, hparent, hslash⟩ := h
      simp [steps, Step.text, Text.split, Text.splitChars_of_notMem hslash, hempty, hhere, hparent]

theorem steps_join {s : Step} (hs : s.IsProper) {more : List Step} (h : ∀ t ∈ more, t.IsProper) :
    (Path.mk (s.text ++ String.join (more.map fun t => "/" ++ t.text))).steps = s :: more := by
  induction more generalizing s with
  | nil => simpa [String.join] using hs.steps_text
  | cons t more ih =>
      obtain ⟨ht, hmore⟩ := List.forall_mem_cons.1 h
      have htext : s.text ++ String.join ((t :: more).map fun t => "/" ++ t.text)
          = s.text ++ "/" ++ (t.text ++ String.join (more.map fun t => "/" ++ t.text)) := by
        simp [String.append_assoc]
      rw [htext, steps_append, hs.steps_text, ih ht hmore, List.singleton_append]

/-- A path is made of its steps. -/
theorem steps_ofSteps {steps : List Step} (h : ∀ s ∈ steps, s.IsProper) :
    (ofSteps steps).steps = steps := by
  cases steps with
  | nil => rfl
  | cons s more =>
      obtain ⟨hs, hmore⟩ := List.forall_mem_cons.1 h
      have htext : ofSteps (s :: more)
          = ⟨"" ++ "/" ++ (s.text ++ String.join (more.map fun t => "/" ++ t.text))⟩ := by
        simp [ofSteps, String.append_assoc]
      rw [htext, steps_append, steps_join hs hmore]
      rfl

end Path

/-! ### Locations -/

namespace Uri

/-- The location the scan writes for the steps of a path. -/
def pathText (steps : List Path.Step) : String :=
  match steps with
  | [] => "/"
  | steps =>
    String.join (steps.map fun step =>
      "/" ++ String.ofList (percentEncode encodedInName step.text.toList))

theorem ofPath_of_isAbsolute {p : Path} (h : p.isAbsolute = true) :
    ofPath p = "file://" ++ pathText p.steps := by
  rw [ofPath, if_pos h]
  rfl

theorem percentDecode_join (steps : List Path.Step) :
    percentDecode (String.join (steps.map fun step =>
        "/" ++ String.ofList (percentEncode encodedInName step.text.toList))).toList
      = Utf8.encode (String.join (steps.map fun s => "/" ++ s.text)).toList := by
  induction steps with
  | nil => rfl
  | cons step steps ih =>
      simp only [List.map_cons, String.join_cons, String.toList_append, String.toList_ofList,
        List.append_assoc, Utf8.encode_append]
      rw [show "/".toList = ['/'] from rfl, List.singleton_append,
        percentDecode_cons_of_ne (by decide), percentDecode_percentEncode (by decide), ih]
      rfl

theorem decode_pathText (steps : List Path.Step) :
    Utf8.decode (percentDecode (pathText steps).toList) = some (Path.ofSteps steps).text := by
  rw [Utf8.decode_eq_some_iff]
  cases steps with
  | nil => rfl
  | cons s more => exact percentDecode_join (s :: more)

theorem mem_encodeByte {b : UInt8} {c : Char} (h : c ∈ encodeByte b) :
    c = '%' ∨ (Text.hexDigit? c).isSome = true := by
  have hb : b.toNat < 256 := b.toNat_lt
  simp only [encodeByte, List.mem_cons, List.not_mem_nil, or_false] at h
  rcases h with rfl | rfl | rfl
  · exact .inl rfl
  · exact .inr (by rw [hexDigit?_toUpper_hexDigit (by omega), Option.isSome_some])
  · exact .inr (by rw [hexDigit?_toUpper_hexDigit (by omega), Option.isSome_some])

theorem mem_percentEncode {p : Char → Bool} {c : Char} {cs : List Char}
    (h : c ∈ percentEncode p cs) :
    p c = false ∨ c = '%' ∨ (Text.hexDigit? c).isSome = true := by
  obtain ⟨d, -, hc⟩ := List.mem_flatMap.1 h
  by_cases hd : p d = true
  · rw [if_pos hd] at hc
    obtain ⟨b, -, hbyte⟩ := List.mem_flatMap.1 hc
    exact .inr (mem_encodeByte hbyte)
  · rw [if_neg hd, List.mem_singleton] at hc
    exact .inl (by simpa [hc] using hd)

/-- The scan writes neither of the marks that end a location. -/
theorem notMem_pathText {mark : Char} (hmark : mark = '?' ∨ mark = '#')
    (steps : List Path.Step) : mark ∉ (pathText steps).toList := by
  intro h
  have hchar : mark = '/' ∨ encodedInName mark = false ∨ mark = '%' ∨
      (Text.hexDigit? mark).isSome = true := by
    cases steps with
    | nil => exact .inl (by simpa [pathText] using h)
    | cons s more =>
        rw [pathText] at h
        · simp only [String.toList_join, List.mem_flatMap, List.mem_map, exists_exists_and_eq_and,
            String.toList_append, String.toList_ofList, List.mem_append] at h
          obtain ⟨step, -, h | h⟩ := h
          · exact .inl (by simpa using h)
          · exact .inr (mem_percentEncode h)
        · simp
  rcases hmark with rfl | rfl <;> revert hchar <;> decide

/-! ### URIs that are read -/

theorem readFilePlace_host {cs : List Char} {host : String} {names : List String}
    (h : readFilePlace cs = .ok (host, names)) : host ≠ "localhost" := by
  simp only [readFilePlace] at h
  split at h
  · cases h
    decide
  · cases h
    decide
  · split at h
    · cases h
      decide
    · split at h
      · cases h
        decide
      · generalize readHost _ = read at h
        cases read with
        | error e => cases h
        | ok named =>
            simp only [bind, Except.bind, pure, Except.pure] at h
            split at h
            · cases h
              decide
            · rename_i hnamed
              cases h
              split
              · decide
              · simpa using hnamed

theorem scheme_of_parseHosted {scheme : String} {special : Bool} {cs : List Char} {u : Uri}
    (h : parseHosted scheme special cs = .ok u) : u.scheme = scheme := by
  simp only [parseHosted] at h
  generalize readAuthority _ _ _ _ = read at h
  cases read with
  | error e => cases h
  | ok parts =>
      cases h
      rfl

theorem scheme_of_parseOther {scheme : String} {cs : List Char} {u : Uri}
    (h : parseOther scheme cs = .ok u) : u.scheme = scheme := by
  unfold parseOther at h
  split at h
  · exact scheme_of_parseHosted h
  · cases h
    rfl

theorem eq_of_parseFile {cs : List Char} {u : Uri} (h : parseFile cs = .ok u) :
    ∃ host names, host ≠ "localhost" ∧
      u = ⟨"file", "", some host, "", .names names, u.query, u.fragment⟩ := by
  simp only [parseFile] at h
  cases hread : readFilePlace (cs.takeWhile fun c => c != '?' && c != '#') with
  | error e =>
      rw [hread] at h
      cases h
  | ok place =>
      rw [hread] at h
      cases h
      exact ⟨place.1, place.2, readFilePlace_host hread, rfl⟩

/-- A URI of the `file` scheme has a host, which is not written for this machine, and a location
of names. -/
theorem eq_of_parse? {sent : String} {u : Uri} (h : parse? sent = some u)
    (hscheme : u.scheme = "file") :
    ∃ host names, host ≠ "localhost" ∧
      u = ⟨"file", "", some host, "", .names names, u.query, u.fragment⟩ := by
  replace h : parse sent = .ok u := by
    unfold parse? at h
    generalize parse sent = read at h
    cases read with
    | error e => cases h
    | ok u' => exact congrArg _ (Option.some.inj h)
  simp only [parse] at h
  split at h
  · cases h
  · rename_i scheme rest _
    split at h
    · exact eq_of_parseFile h
    · rename_i hother
      have hne : scheme ≠ "file" := by simpa using hother
      split at h
      · exact absurd ((scheme_of_parseHosted h).symm.trans hscheme) hne
      · exact absurd ((scheme_of_parseOther h).symm.trans hscheme) hne

/-- **The text of a URI that has a path**: no host is written, and the location starts with a slash
and decodes to the path. -/
theorem text_of_filePath? {sent : String} {u : Uri} {q : Path} (h : parse? sent = some u)
    (hscheme : u.scheme = "file") (hpath : u.filePath? = some q) :
    u.text = "file://" ++ u.location.text ++ (u.query.elim "" ("?" ++ ·))
        ++ (u.fragment.elim "" ("#" ++ ·)) ∧
      Utf8.decode (percentDecode u.location.text.toList) = some q.text ∧
      ∃ rest, u.location.text = "/" ++ rest := by
  obtain ⟨host, names, hhost, hu⟩ := eq_of_parse? h hscheme
  generalize u.query = query at hu
  generalize u.fragment = fragment at hu
  subst hu
  simp only [filePath?, Option.all_some, beq_iff_eq, Bool.or_eq_true, hhost, or_false] at hpath
  split at hpath
  · rename_i hempty
    split at hpath
    · rename_i name more hlocation
      obtain rfl : names = name :: more := by simpa using hlocation
      obtain ⟨text, htext, rfl⟩ := Option.map_eq_some_iff.1 hpath
      refine ⟨?_, htext, _, by rw [Location.text, List.map_cons, String.join_cons,
        String.append_assoc]⟩
      subst hempty
      cases query <;> cases fragment <;> simp [Uri.text, String.append_assoc]
    · cases hpath
  · cases hpath

/-! ### The URI the scan writes -/

theorem exists_pathText_eq (steps : List Path.Step) : ∃ rest, pathText steps = "/" ++ rest := by
  cases steps with
  | nil => exact ⟨"", rfl⟩
  | cons s more =>
      exact ⟨_, by rw [pathText, List.map_cons, String.join_cons, String.append_assoc]; simp⟩

/-- The steps of a path can be told from the location written for them. -/
theorem steps_of_decode {steps : List Path.Step} (h : ∀ s ∈ steps, s.IsProper) {q : Path}
    (hq : Utf8.decode (percentDecode (pathText steps).toList) = some q.text) :
    q.steps = steps := by
  rw [decode_pathText, Option.some.injEq] at hq
  rw [← Path.steps_ofSteps h]
  exact congrArg Path.steps (congrArg Path.mk hq.symm)

/-- Only an absolute path has a URI with a location that starts with a slash. -/
theorem isAbsolute_of_ofPath {p : Path} {rest : String}
    (h : ofPath p = "file://" ++ ("/" ++ rest)) : p.isAbsolute = true := by
  by_contra hp
  rw [ofPath, if_neg hp, String.append_right_inj] at h
  exact hp (Text.startsWith_iff.2 ⟨rest, h⟩)

/-- Two absolute paths have one URI if they have the same steps. -/
theorem ofPath_eq_ofPath_iff {p q : Path} (hq : q.isAbsolute = true) :
    ofPath p = ofPath q ↔ p.isAbsolute = true ∧ p.steps = q.steps := by
  rw [ofPath_of_isAbsolute hq]
  constructor
  · intro h
    obtain ⟨rest, hrest⟩ := exists_pathText_eq q.steps
    have hp : p.isAbsolute = true := isAbsolute_of_ofPath (hrest ▸ h)
    rw [ofPath_of_isAbsolute hp, String.append_right_inj] at h
    have hsteps : (Path.ofSteps p.steps).steps = q.steps :=
      steps_of_decode (fun _ => Path.isProper_of_mem_steps) (h ▸ decode_pathText p.steps)
    rw [← hsteps, Path.steps_ofSteps fun _ => Path.isProper_of_mem_steps]
    exact ⟨hp, rfl⟩
  · rintro ⟨hp, hsteps⟩
    rw [ofPath_of_isAbsolute hp, hsteps]

/-- A URI with the location the scan writes for a path, and with nothing behind it. -/
structure IsPlain (u : Uri) : Prop where
  query : u.query = none
  fragment : u.fragment = none
  location : ∃ steps : List Path.Step, (∀ s ∈ steps, s.IsProper) ∧
    u.location.text = pathText steps

/-- **Which URIs the scan writes for their path**: the plain ones. -/
theorem ofPath_eq_text_iff {sent : String} {u : Uri} {q : Path} (h : parse? sent = some u)
    (hscheme : u.scheme = "file") (hpath : u.filePath? = some q) (p : Path) :
    ofPath p = u.text ↔ p.isAbsolute = true ∧ p.steps = q.steps ∧ u.IsPlain := by
  obtain ⟨htext, hdecode, rest, hrest⟩ := text_of_filePath? h hscheme hpath
  rw [htext, String.append_assoc, String.append_assoc]
  constructor
  · intro heq
    have hp : p.isAbsolute = true := by
      rw [hrest, String.append_assoc] at heq
      exact isAbsolute_of_ofPath heq
    rw [ofPath_of_isAbsolute hp, String.append_right_inj] at heq
    have hquery : u.query = none := by
      cases hquery : u.query with
      | none => rfl
      | some query =>
          refine absurd ?_ (notMem_pathText (.inl rfl) p.steps)
          simp [heq, hquery]
    have hfragment : u.fragment = none := by
      cases hfragment : u.fragment with
      | none => rfl
      | some fragment =>
          refine absurd ?_ (notMem_pathText (.inr rfl) p.steps)
          simp [heq, hfragment]
    have hlocation : u.location.text = pathText p.steps := by
      simpa [hquery, hfragment] using heq.symm
    have hproper : ∀ s ∈ p.steps, s.IsProper := fun _ => Path.isProper_of_mem_steps
    exact ⟨hp, (steps_of_decode hproper (hlocation ▸ hdecode)).symm, hquery, hfragment, _,
      hproper, hlocation⟩
  · rintro ⟨hp, hsteps, hquery, hfragment, steps, hproper, hlocation⟩
    rw [ofPath_of_isAbsolute hp, hsteps, steps_of_decode hproper (hlocation ▸ hdecode), hquery,
      hfragment, hlocation]
    simp

end Uri

end MockLens
