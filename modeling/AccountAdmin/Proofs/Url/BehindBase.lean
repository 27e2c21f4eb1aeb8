import AccountAdmin.Url.Parse

/-!
# Paths behind a base

A path is put behind a base as text, and only then read as a URL.  So nothing keeps the path from
becoming something else than a path: if the base ends in front of the place where a host is
expected, then the path slides into that place.  Trailing slashes do not do it where they are taken
off the base, but a tab at the end of `a:/` protects the slash from that and is skipped afterwards.

Let a base be given that can be read with a single slash behind it.  What becomes of the same base
with a longer text behind the slash depends on the kind of its scheme.

* If the scheme is special, then slashes in front of the host do not count, so the base has a part
  of the host in it and the slash ends it.
* If it is `file`, then the text becomes the host exactly behind two slashes, the second of which
  may be the one that was put in.
* With any other scheme the same holds, except that the skipped characters are gone by then.

Everything else cannot be refused, since no path, query or fragment ever is.  Hence the text has to
be `Harmless`: it begins with no slash, and its first segment is a host.

* `isOk_parseChars_append`: a harmless text behind the slash is as good as none.
-/

namespace AccountAdmin.Url

/-! ## Texts with a stop in them -/

section

variable {α : Type} {p : α → Bool} {stop : α}

/-- What is taken from the front does not go beyond the stop. -/
theorem takeWhile_append_stop (hstop : p stop = false) (s t : List α) :
    (s ++ stop :: t).takeWhile p = s.takeWhile p := by
  induction s with
  | nil => exact List.takeWhile_cons_of_neg (Bool.eq_false_iff.1 hstop)
  | cons a s ih => rw [List.cons_append, List.takeWhile_cons, List.takeWhile_cons, ih]

/-- What is dropped from the front does not go beyond the stop. -/
theorem dropWhile_append_stop (hstop : p stop = false) (s t : List α) :
    (s ++ stop :: t).dropWhile p = s.dropWhile p ++ stop :: t := by
  induction s with
  | nil => exact List.dropWhile_cons_of_neg (Bool.eq_false_iff.1 hstop)
  | cons a s ih =>
    rw [List.cons_append, List.dropWhile_cons, List.dropWhile_cons, ih]
    split <;> rfl

end

/-! ## Blanks and skipped characters -/

variable {w : List Char}

/-- There are neither blanks nor controls in a text. -/
def isPlain (s : List Char) : Bool := s.all (!isOuter ·)

theorem isPlain_iff {s : List Char} : isPlain s = true ↔ ∀ c ∈ s, isOuter c = false := by
  simp only [isPlain, List.all_eq_true, Bool.not_eq_true']

theorem isPlain_append (s t : List Char) : isPlain (s ++ t) = (isPlain s && isPlain t) :=
  List.all_append

theorem isSkipped_eq_false {c : Char} (h : isOuter c = false) : Path.isSkipped c = false := by
  rw [Bool.eq_false_iff]
  intro hskipped
  simp only [Path.isSkipped, Bool.or_eq_true, beq_iff_eq] at hskipped
  rcases hskipped with (rfl | rfl) | rfl <;> exact absurd h (by decide)

/-- Behind a base, nothing is stripped from a plain text. -/
theorem strip_append (hw : isPlain w = true) (s : List Char) :
    strip (s ++ '/' :: w) = s.dropWhile isOuter ++ '/' :: w := by
  have hslash : isOuter '/' = false := by decide
  obtain ⟨last, before, hreverse⟩ : ∃ last before, ('/' :: w).reverse = last :: before :=
    List.exists_cons_of_ne_nil (by simp)
  have hlast : isOuter last = false := by
    have hmem : last ∈ '/' :: w := by
      rw [← List.mem_reverse, hreverse]
      exact List.mem_cons_self
    rcases List.mem_cons.1 hmem with rfl | hmem
    · exact hslash
    · exact isPlain_iff.1 hw last hmem
  rw [strip, dropWhile_append_stop hslash, List.reverse_append, hreverse, List.cons_append,
    List.dropWhile_cons_of_neg (Bool.eq_false_iff.1 hlast), ← List.cons_append, ← hreverse,
    ← List.reverse_append, List.reverse_reverse]

/-- Behind a base, nothing is skipped in a plain text. -/
theorem clean_append (hw : isPlain w = true) (s : List Char) :
    clean (s ++ '/' :: w) = clean s ++ '/' :: w := by
  have hkept : ∀ c ∈ '/' :: w, (!Path.isSkipped c) = true := by
    rw [List.forall_mem_cons]
    refine ⟨by decide, fun c hc => ?_⟩
    rw [isSkipped_eq_false (isPlain_iff.1 hw c hc)]
    rfl
  rw [clean, clean, List.filter_append, List.filter_eq_self.2 hkept]

/-! ## Schemes -/

/-- The scheme is in the base, and what is behind the base is behind its colon. -/
theorem splitScheme?_append (s w : List Char) :
    splitScheme? (s ++ '/' :: w) = (splitScheme? s).map fun r => (r.1, r.2 ++ '/' :: w) := by
  have hslash : isSchemeCharacter '/' = false := by decide
  rw [splitScheme?, splitScheme?, takeWhile_append_stop hslash, dropWhile_append_stop hslash]
  cases s.takeWhile isSchemeCharacter with
  | nil => rfl
  | cons c cs =>
    cases s.dropWhile isSchemeCharacter with
    | nil => rfl
    | cons d rest =>
      by_cases hcolon : d = ':'
      · subst hcolon
        show (if c.isAlpha = true then some _ else none) =
          (if c.isAlpha = true then some _ else none).map _
        rw [apply_ite (Option.map _)]
        rfl
      · simp [hcolon]

/-- A text with a scheme has a colon in it. -/
theorem colon_mem_of_splitScheme? {s scheme rest : List Char}
    (h : splitScheme? s = some (scheme, rest)) : ':' ∈ s := by
  rw [splitScheme?] at h
  split at h
  · next c cs rest' _ hdrop =>
    have hmem : ':' ∈ s.dropWhile isSchemeCharacter := by
      rw [hdrop]
      exact List.mem_cons_self
    exact (List.dropWhile_suffix _).subset hmem
  · cases h

/-! ## Authorities -/

/-- If there is something behind an authority, then it does not matter what. -/
theorem isOk_readAuthority_congr {kind : Kind} {s t : List Char}
    (htext : s.takeWhile (!endsAuthority kind ·) = t.takeWhile (!endsAuthority kind ·))
    (hs : s.dropWhile (!endsAuthority kind ·) ≠ []) (ht : t.dropWhile (!endsAuthority kind ·) ≠ [])
    (scheme : List Char) :
    (readAuthority kind scheme s).isOk = (readAuthority kind scheme t).isOk := by
  rw [readAuthority, readAuthority, htext]
  simp only [ne_eq, hs, ht, not_false_eq_true, and_true]
  obtain ⟨user, hostPort⟩ := splitUser (t.takeWhile (!endsAuthority kind ·))
  dsimp only
  split
  · rfl
  · cases readHostPort kind scheme hostPort with
    | error e => rfl
    | ok read =>
      obtain ⟨host, port, rest⟩ := read
      dsimp only
      split <;> rfl

/-- Whether an authority can be read depends on nothing behind the slash that ends it. -/
theorem isOk_readAuthority_append (kind : Kind) (scheme s w w' : List Char) :
    (readAuthority kind scheme (s ++ '/' :: w)).isOk =
      (readAuthority kind scheme (s ++ '/' :: w')).isOk := by
  have hslash : (!endsAuthority kind '/') = false := rfl
  have htext (t : List Char) : (s ++ '/' :: t).takeWhile (!endsAuthority kind ·) =
      s.takeWhile (!endsAuthority kind ·) :=
    takeWhile_append_stop (p := (!endsAuthority kind ·)) hslash s t
  have hbehind (t : List Char) : (s ++ '/' :: t).dropWhile (!endsAuthority kind ·) ≠ [] := by
    rw [dropWhile_append_stop (p := (!endsAuthority kind ·)) hslash]
    exact List.append_ne_nil_of_right_ne_nil _ (List.cons_ne_nil _ _)
  exact isOk_readAuthority_congr ((htext w).trans (htext w').symm) (hbehind w) (hbehind w') scheme

theorem isOk_parseAfterSlashes (kind : Kind) (scheme s : List Char) :
    (parseAfterSlashes kind scheme s).isOk = (readAuthority kind scheme s).isOk := by
  rw [parseAfterSlashes]
  cases readAuthority kind scheme s <;> rfl

/-! ## Harmless texts -/

/-- The text in the place of the host of a local file. -/
def fileHostText (s : List Char) : List Char :=
  let text := s.takeWhile (!endsAuthority .file ·)
  if Path.isDrive (clean text) then [] else text

/-- A text can stand where a path is expected and where a host is, too. -/
structure Harmless (w : List Char) : Prop where
  plain : isPlain w = true
  /-- There is no slash at its front. -/
  slashless : dropSlash? w = none
  /-- It has a host at its front, if the scheme knows no domain names. -/
  host : ∀ scheme, (readAuthority .other scheme w).isOk = true
  /-- It has a host at its front, if the scheme is that of local files. -/
  fileHost : (readFileHost (clean (fileHostText w))).isOk = true

theorem Harmless.head?_ne (hw : Harmless w) : w.head? ≠ some '/' := by
  intro hhead
  obtain ⟨rest, rfl⟩ := List.head?_eq_some_iff.1 hhead
  cases hw.slashless

/-! ## The three kinds of schemes -/

theorem isOk_special_append {scheme rest : List Char}
    (hprobe : (parseAfterSlashes .special scheme
      ((rest ++ ['/']).dropWhile (isSlash .special))).isOk = true) (w : List Char) :
    (parseAfterSlashes .special scheme
      ((rest ++ '/' :: w).dropWhile (isSlash .special))).isOk = true := by
  rw [List.dropWhile_append] at hprobe ⊢
  split at hprobe
  · -- nothing but slashes, so there is no host
    cases hprobe
  · next hhost =>
    rw [if_neg hhost, isOk_parseAfterSlashes]
    rw [isOk_parseAfterSlashes] at hprobe
    exact (isOk_readAuthority_append .special scheme _ w []).trans hprobe

theorem isOk_parseOther {s : List Char} (hs : ∀ rest, s ≠ '/' :: '/' :: rest) (scheme : List Char) :
    (parseOther scheme s).isOk = true := by
  rw [parseOther.eq_def]
  split
  · next rest => exact absurd rfl (hs rest)
  · rfl

theorem isOk_other_append (hw : Harmless w) {scheme rest : List Char}
    (hprobe : (parseOther scheme (rest ++ ['/'])).isOk = true) :
    (parseOther scheme (rest ++ '/' :: w)).isOk = true := by
  by_cases hslashes : ∃ t, rest ++ '/' :: w = '/' :: '/' :: t
  · -- how many of the two slashes are in the base?
    obtain ⟨t, ht⟩ := hslashes
    cases rest with
    | nil =>
      rw [(List.cons.inj ht).2] at hw
      exact absurd rfl hw.head?_ne
    | cons c rest =>
      obtain ⟨rfl, hrest⟩ := List.cons.inj ht
      cases rest with
      | nil => exact (isOk_parseAfterSlashes .other scheme w).trans (hw.host scheme)
      | cons c rest =>
        obtain ⟨rfl, -⟩ := List.cons.inj hrest
        have hread := isOk_readAuthority_append .other scheme rest w []
        rw [← isOk_parseAfterSlashes, ← isOk_parseAfterSlashes] at hread
        exact hread.trans hprobe
  · exact isOk_parseOther (fun t ht => hslashes ⟨t, ht⟩) scheme

/-! ## Local files -/

theorem isOk_parseFile (scheme s : List Char) :
    (parseFile scheme s).isOk = ((dropSlash? s).bind dropSlash?).all fun rest =>
      (readFileHost (clean (fileHostText rest))).isOk := by
  rw [parseFile]
  cases dropSlash? s with
  | none => rfl
  | some rest =>
    dsimp only [Option.bind_some]
    cases dropSlash? rest with
    | none => rfl
    | some rest =>
      dsimp only [Option.all_some, fileHostText]
      split
      · next e he => rw [he]; rfl
      · next he => rw [he]; rfl
      · next host he => rw [he]; rfl

theorem dropSlash?_append_of_eq_nil {s : List Char} (hs : s.dropWhile Path.isSkipped = [])
    (w : List Char) : dropSlash? (s ++ '/' :: w) = some w := by
  have hslash : Path.isSkipped '/' = false := rfl
  rw [dropSlash?, dropWhile_append_stop hslash, hs]
  rfl

theorem dropSlash?_append_of_ne_nil {s : List Char} (hs : s.dropWhile Path.isSkipped ≠ [])
    (w : List Char) : dropSlash? (s ++ '/' :: w) = (dropSlash? s).map (· ++ '/' :: w) := by
  have hslash : Path.isSkipped '/' = false := rfl
  rw [dropSlash?, dropSlash?, dropWhile_append_stop hslash]
  obtain ⟨c, rest, hrest⟩ := List.exists_cons_of_ne_nil hs
  rw [hrest]
  show (if isSlash .file c then some _ else none) = (if isSlash .file c then some _ else none).map _
  rw [apply_ite (Option.map _)]
  rfl

/-- The host of a local file ends in front of a slash. -/
theorem fileHostText_append (s w : List Char) :
    fileHostText (s ++ '/' :: w) = fileHostText s := by
  rw [fileHostText, takeWhile_append_stop (p := (!endsAuthority .file ·)) rfl]
  rfl

theorem isOk_file_append (hw : Harmless w) {scheme rest : List Char}
    (hprobe : (parseFile scheme (rest ++ ['/'])).isOk = true) :
    (parseFile scheme (rest ++ '/' :: w)).isOk = true := by
  rw [isOk_parseFile] at hprobe ⊢
  by_cases hrest : rest.dropWhile Path.isSkipped = []
  · -- the slash that was put in is the first one
    rw [dropSlash?_append_of_eq_nil hrest, Option.bind_some, hw.slashless]
    rfl
  · rw [dropSlash?_append_of_ne_nil hrest] at hprobe ⊢
    cases hfirst : dropSlash? rest with
    | none => rfl
    | some first =>
      rw [hfirst, Option.map_some, Option.bind_some] at hprobe
      rw [Option.map_some, Option.bind_some]
      by_cases hskipped : first.dropWhile Path.isSkipped = []
      · -- it is the second one
        rw [dropSlash?_append_of_eq_nil hskipped]
        exact hw.fileHost
      · rw [dropSlash?_append_of_ne_nil hskipped] at hprobe ⊢
        cases hsecond : dropSlash? first with
        | none => rfl
        | some second =>
          rw [hsecond, Option.map_some, Option.all_some, fileHostText_append] at hprobe
          rw [Option.map_some, Option.all_some, fileHostText_append]
          exact hprobe

/-! ## Texts -/

/-- What is behind the colon of a scheme. -/
theorem afterColon_append {s : List Char} (hs : ':' ∈ s) (w : List Char) :
    ((s ++ '/' :: w).dropWhile (· != ':')).drop 1 =
      (s.dropWhile (· != ':')).drop 1 ++ '/' :: w := by
  obtain ⟨front, rest, rfl⟩ := List.append_of_mem hs
  have hstop : (':' != ':') = false := rfl
  rw [List.append_assoc, List.cons_append, dropWhile_append_stop (p := (· != ':')) hstop,
    dropWhile_append_stop (p := (· != ':')) hstop]
  cases front.dropWhile (· != ':') with
  | nil => rfl
  | cons c front => exact (List.append_assoc front (':' :: rest) ('/' :: w)).symm

/-- **A harmless text behind a base is as good as none.** -/
theorem isOk_parseChars_append (hw : Harmless w) {base : List Char}
    (hprobe : (parseChars (base ++ ['/'])).isOk = true) :
    (parseChars (base ++ '/' :: w)).isOk = true := by
  have hnil : isPlain [] = true := rfl
  rw [parseChars] at hprobe ⊢
  rw [strip_append hnil] at hprobe
  rw [strip_append hw.plain]
  generalize base.dropWhile isOuter = base at hprobe ⊢
  -- the scheme is the same with either text behind the base
  rw [clean_append hnil, splitScheme?_append] at hprobe
  rw [clean_append hw.plain, splitScheme?_append]
  cases hscheme : splitScheme? (clean base) with
  | none =>
    rw [hscheme] at hprobe
    cases hprobe
  | some split =>
    obtain ⟨scheme, rest⟩ := split
    have hcolon : ':' ∈ base := (List.mem_filter.1 (colon_mem_of_splitScheme? hscheme)).1
    rw [hscheme, Option.map_some] at hprobe
    rw [Option.map_some]
    rw [afterColon_append hcolon] at hprobe ⊢
    dsimp only at hprobe ⊢
    generalize kindOf scheme = kind at hprobe ⊢
    cases kind with
    | special => exact isOk_special_append hprobe w
    | file => exact isOk_file_append hw hprobe
    | other => exact isOk_other_append hw hprobe

/-- Whether a text is harmless is up to its first segment. -/
theorem Harmless.append {s w w' : List Char} (h : Harmless (s ++ '/' :: w))
    (hplain : isPlain w' = true) : Harmless (s ++ '/' :: w') where
  plain := by
    have hs := h.plain
    rw [isPlain_append, Bool.and_eq_true] at hs ⊢
    exact ⟨hs.1, hplain⟩
  slashless := by
    have hnone := h.slashless
    by_cases hs : s.dropWhile Path.isSkipped = []
    · rw [dropSlash?_append_of_eq_nil hs] at hnone
      cases hnone
    · rw [dropSlash?_append_of_ne_nil hs, Option.map_eq_none_iff] at hnone ⊢
      exact hnone
  host scheme := (isOk_readAuthority_append .other scheme s w' w).trans (h.host scheme)
  fileHost := by
    have hhost := h.fileHost
    rw [fileHostText_append] at hhost ⊢
    exact hhost

end AccountAdmin.Url
