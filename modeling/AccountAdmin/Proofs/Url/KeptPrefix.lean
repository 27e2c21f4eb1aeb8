import AccountAdmin.Proofs.Url.BehindBase
import Mathlib.Data.List.TakeWhile

/-!
# The path of a base is kept

A path that is put behind a base is resolved together with the path of the base.  What is resolved
there are dots, and a double dot reaches back over whatever stands before it.  But the segments are
gone through from left to right, and the text behind the slash comes last; if there are no dots in
it, then what is left of the base is decided by then, and the text is put behind that.  For the same
text in any base, there is one `front` for all texts behind it (`exists_readPath_append`).

So the whole URL of a base with a text behind it is the URL of the base with a single slash, except
that the text stands behind that slash.  The other parts are not touched.  The authority ends at a
slash of the base or at the slash behind it (`readAuthority_append`), and what is read behind it is
part of the text that was given (`mem_of_readAuthority`); so unless there is a question mark or a
number sign in the base, all of it is path.

* `Settled`: texts that stand in a path as they are.
* `parseChars_append`: the URL of a base with a settled text behind it.
-/

namespace AccountAdmin.Url

/-! ## Settled texts -/

/-- Small letters, digits, hyphens and slashes. -/
def settledCharacters : List Char := "-/0123456789abcdefghijklmnopqrstuvwxyz".toList

/-- Nothing in a text is resolved or encoded where it stands in a path. -/
def Settled (w : List Char) : Prop := ∀ c ∈ w, c ∈ settledCharacters

instance (w : List Char) : Decidable (Settled w) :=
  List.decidableBAll (· ∈ settledCharacters) w

/-- What has been checked for all settled characters holds in a settled text. -/
theorem Settled.check {w : List Char} (hw : Settled w) {p : Char → Bool}
    (hp : settledCharacters.all p = true) : ∀ c ∈ w, p c = true :=
  fun c hc => List.all_eq_true.1 hp c (hw c hc)

theorem settled_nil : Settled [] := List.forall_mem_nil _

theorem Settled.append {v w : List Char} (hv : Settled v) (hw : Settled w) : Settled (v ++ w) :=
  List.forall_mem_append.2 ⟨hv, hw⟩

theorem Settled.isPlain {w : List Char} (hw : Settled w) : isPlain w = true := by
  have hall : settledCharacters.all (fun c => isOuter c == false) = true := by decide +kernel
  exact isPlain_iff.2 fun c hc => eq_of_beq (hw.check hall c hc)

theorem Settled.endsPath {w : List Char} (hw : Settled w) : ∀ c ∈ w, endsPath c = false := by
  have hall : settledCharacters.all (fun c => Url.endsPath c == false) = true := by decide +kernel
  exact fun c hc => eq_of_beq (hw.check hall c hc)

theorem Settled.encode_eq {w : List Char} (hw : Settled w) :
    Percent.encode Percent.inPath w = w := by
  have hall : settledCharacters.all (fun c =>
      (Percent.isControl c || 0x7F < c.toNat || Percent.inPath c) == false) = true := by
    decide +kernel
  have hplain := hw.check hall
  clear hw
  induction w with
  | nil => rfl
  | cons c w ih =>
    have hc := eq_of_beq (hplain c List.mem_cons_self)
    have hrest := ih fun d hd => hplain d (List.mem_cons_of_mem c hd)
    rw [Percent.encode] at hrest ⊢
    rw [List.flatMap_cons, hrest, hc]
    rfl

namespace Path

/-- There are no dots in a settled segment. -/
theorem isDoubleDot_of_settled {s : Segment} (hs : Settled s) :
    isDoubleDot s = false ∧ isSingleDot s = false := by
  have hall : settledCharacters.all (fun c => c.toLower != '.' && c.toLower != '%') = true := by
    decide +kernel
  cases s with
  | nil => exact ⟨rfl, rfl⟩
  | cons c s =>
    have hc := hs.check hall c List.mem_cons_self
    rw [Bool.and_eq_true, bne_iff_ne, bne_iff_ne] at hc
    obtain ⟨hdot, hpercent⟩ := hc
    have hne {d : Char} {t : List Char} (hd : c.toLower ≠ d) :
        (lower (c :: s) == d :: t) = false := by
      rw [beq_eq_false_iff_ne, lower, List.map_cons]
      exact fun h => hd (List.cons.inj h).1
    rw [isDoubleDot, isSingleDot]
    simp only [hne hdot, hne hpercent, Bool.or_self, and_self]

/-! ## Segments -/

theorem mem_of_mem_split {isSlash : Char → Bool} {w : List Char} {s : Segment}
    (hs : s ∈ split isSlash w) : ∀ c ∈ s, c ∈ w := by
  induction w generalizing s with
  | nil =>
    obtain rfl := List.mem_singleton.1 hs
    exact nofun
  | cons d w ih =>
    have hlater {t : Segment} (ht : t ∈ split isSlash w) : ∀ c ∈ t, c ∈ d :: w :=
      fun c hc => List.mem_cons_of_mem d (ih ht c hc)
    rw [split] at hs
    split at hs
    · rcases List.mem_cons.1 hs with rfl | hs
      · exact nofun
      · exact hlater hs
    · split at hs
      · next hnil => exact absurd hnil (split_ne_nil isSlash w)
      · next t segments hsplit =>
        rw [hsplit] at hlater
        rcases List.mem_cons.1 hs with rfl | hs
        · refine List.forall_mem_cons.2 ⟨List.mem_cons_self, hlater List.mem_cons_self⟩
        · exact hlater (List.mem_cons_of_mem t hs)

/-- A text is cut at every slash, and so at any one of them. -/
theorem split_append {isSlash : Char → Bool} (hslash : isSlash '/' = true) (s w : List Char) :
    split isSlash (s ++ '/' :: w) = split isSlash s ++ split isSlash w := by
  induction s with
  | nil => exact if_pos hslash
  | cons c s ih =>
    rw [List.cons_append, split, split, ih]
    split
    · rfl
    · obtain ⟨t, segments, hsplit⟩ := List.exists_cons_of_ne_nil (split_ne_nil isSlash s)
      rw [hsplit]
      rfl

/-- The segments of a settled text are written as they were. -/
theorem text_split {kind : Kind} {w : List Char} (hw : Settled w) :
    text (split (isSlash kind) w) = '/' :: w := by
  have hall : settledCharacters.all (fun c => !Url.isSlash kind c || c == '/') = true := by
    cases kind <;> decide +kernel
  induction w with
  | nil => rfl
  | cons c w ih =>
    have hc := hw c List.mem_cons_self
    have hchecked := hw.check hall c List.mem_cons_self
    have hrest : text (split (Url.isSlash kind) w) = '/' :: w :=
      ih fun d hd => hw d (List.mem_cons_of_mem c hd)
    rw [split]
    split
    · next hslash =>
      obtain rfl : c = '/' := by simpa [hslash] using hchecked
      rw [text, List.flatMap_cons, ← text, hrest]
      rfl
    · obtain ⟨t, segments, hsplit⟩ := List.exists_cons_of_ne_nil (split_ne_nil (Url.isSlash kind) w)
      rw [hsplit] at hrest ⊢
      rw [text, List.flatMap_cons, List.cons_append, List.cons.injEq] at hrest
      have hone : Percent.encode Percent.inPath [c] = [c] :=
        Settled.encode_eq fun d hd => List.mem_singleton.1 hd ▸ hc
      have hfirst : Percent.encode Percent.inPath (c :: t) =
          c :: Percent.encode Percent.inPath t := by
        rw [← List.singleton_append, Percent.encode_append, hone]
        rfl
      rw [text, List.flatMap_cons, hfirst, List.cons_append, List.cons_append, hrest.2]

/-- The segments, in reverse order, that are there once a segment is resolved that has another one
behind it. -/
def pass (before : List Segment) (s : Segment) : List Segment :=
  if isDoubleDot s then retreat before else if isSingleDot s then before else s :: before

/-- Segments with others behind them are passed one by one. -/
theorem walk_append (segments : List Segment) {rest : List Segment} (hrest : rest ≠ [])
    (before : List Segment) :
    walk before (segments ++ rest) = walk (segments.foldl pass before) rest := by
  induction segments generalizing before with
  | nil => rfl
  | cons s segments ih =>
    obtain ⟨next, others, hnext⟩ := List.exists_cons_of_ne_nil
      (List.append_ne_nil_of_right_ne_nil segments hrest)
    rw [List.foldl_cons, ← ih, List.cons_append, hnext, walk, pass]
    split
    · rfl
    · split <;> rfl

/-- Segments without dots stay as they are. -/
theorem walk_of_settled {segments : List Segment} (hsegments : ∀ s ∈ segments, Settled s)
    (before : List Segment) : walk before segments = before.reverse ++ segments := by
  induction segments generalizing before with
  | nil => exact (List.append_nil _).symm
  | cons s segments ih =>
    obtain ⟨hdouble, hsingle⟩ := isDoubleDot_of_settled (hsegments s List.mem_cons_self)
    cases segments with
    | nil =>
      rw [walk, hdouble, hsingle]
      exact List.reverse_cons
    | cons next rest =>
      rw [walk, hdouble, hsingle]
      refine (ih (fun t ht => hsegments t (List.mem_cons_of_mem s ht)) (s :: before)).trans ?_
      rw [List.reverse_cons, List.append_assoc]
      rfl

end Path

/-! ## Paths -/

theorem settled_split {kind : Kind} {w : List Char} (hw : Settled w) :
    ∀ s ∈ Path.split (isSlash kind) w, Settled s :=
  fun _ hs c hc => hw c (Path.mem_of_mem_split hs c hc)

/-- What a path comes to in front of the slash behind it depends on nothing behind that slash. -/
theorem exists_readPath_append (kind : Kind) (s : List Char) :
    ∃ front, ∀ w, Settled w → readPath kind (s ++ '/' :: w) = front ++ '/' :: w := by
  have hslash : isSlash kind '/' = true := rfl
  have hresolve (t : List Char) : ∃ front, ∀ w, Settled w →
      Path.text (Path.resolve (Path.split (isSlash kind) (t ++ '/' :: w))) = front ++ '/' :: w := by
    refine ⟨Path.text ((Path.split (isSlash kind) t).foldl Path.pass []).reverse, fun w hw => ?_⟩
    rw [Path.split_append hslash, Path.resolve, Path.walk_append _ (Path.split_ne_nil _ w),
      Path.walk_of_settled (settled_split hw), Path.text_append, Path.text_split hw]
  cases s with
  | nil =>
    refine ⟨[], fun w hw => ?_⟩
    rw [List.nil_append, readPath, if_pos hslash, Path.resolve,
      Path.walk_of_settled (settled_split hw)]
    exact Path.text_split hw
  | cons c s =>
    by_cases hc : isSlash kind c = true
    · obtain ⟨front, hfront⟩ := hresolve s
      refine ⟨front, fun w hw => ?_⟩
      rw [List.cons_append, readPath, if_pos hc]
      exact hfront w hw
    · obtain ⟨front, hfront⟩ := hresolve (c :: s)
      refine ⟨front, fun w hw => ?_⟩
      rw [List.cons_append, readPath, if_neg hc, ← List.cons_append]
      exact hfront w hw

/-! ## Authorities -/

theorem suffix_of_splitUser (s : List Char) : (splitUser s).2 <:+ s := by
  rw [splitUser]
  split
  · have hprefix := List.takeWhile_prefix (l := s.reverse) (· != '@')
    rw [← List.reverse_suffix, List.reverse_reverse] at hprefix
    exact hprefix
  · exact List.suffix_refl s

theorem suffix_of_splitPort (bracket : Bool) (s : List Char) : (splitPort bracket s).2 <:+ s := by
  induction s generalizing bracket with
  | nil => exact List.suffix_refl []
  | cons c s ih =>
    rw [splitPort]
    split
    · exact List.suffix_refl _
    · exact (ih _).trans (List.suffix_cons c s)

theorem suffix_of_readPort {sum : Nat} {seen : Bool} {s rest : List Char} {port : Option Nat}
    (h : readPort sum seen s = .ok (port, rest)) : rest <:+ s := by
  induction s generalizing sum seen with
  | nil =>
    obtain ⟨-, rfl⟩ := Prod.mk.inj (Except.ok.inj h)
    exact List.suffix_refl []
  | cons c s ih =>
    rw [readPort] at h
    split at h
    · dsimp only at h
      split at h
      · exact (ih h).trans (List.suffix_cons c s)
      · cases h
    · split at h
      · obtain ⟨-, rfl⟩ := Prod.mk.inj (Except.ok.inj h)
        exact List.suffix_refl _
      · cases h

theorem suffix_of_readHostPort {kind : Kind} {scheme s rest : List Char} {host : Host}
    {port : Option Nat} (h : readHostPort kind scheme s = .ok (host, port, rest)) : rest <:+ s := by
  have hsplit := suffix_of_splitPort false s
  rw [readHostPort] at h
  rcases hparts : splitPort false s with ⟨hostText, portText⟩
  rw [hparts] at h hsplit
  dsimp only at h hsplit
  split at h
  · cases h
  · split at h
    · cases h
    · cases portText with
      | nil =>
        cases h
        exact List.nil_suffix
      | cons c digits =>
        dsimp only at h
        split at h
        · cases h
        · split at h
          · cases h
          · next hport =>
            cases h
            exact (suffix_of_readPort hport).trans ((List.suffix_cons c digits).trans hsplit)

/-- What is behind an authority is part of the text. -/
theorem mem_of_readAuthority {kind : Kind} {scheme s rest : List Char} {a : Authority}
    (h : readAuthority kind scheme s = .ok (a, rest)) : ∀ c ∈ rest, c ∈ s := by
  have huser := suffix_of_splitUser (s.takeWhile (!endsAuthority kind ·))
  rw [readAuthority] at h
  rcases hparts : splitUser (s.takeWhile (!endsAuthority kind ·)) with ⟨user, hostPort⟩
  rw [hparts] at h huser
  dsimp only at h huser
  split at h
  · cases h
  · split at h
    · cases h
    · next hread =>
      split at h
      · cases h
      · cases h
        intro c hc
        rcases List.mem_append.1 hc with hc | hc
        · have hfront := huser.subset ((suffix_of_readHostPort hread).subset hc)
          exact (List.takeWhile_prefix _).subset hfront
        · exact (List.dropWhile_suffix _).subset hc

/-- An authority ends with a slash, at the latest, and what is behind the slash is left as it is. -/
theorem readAuthority_append {kind : Kind} {scheme s w rest : List Char} {a : Authority}
    (h : readAuthority kind scheme (s ++ '/' :: w) = .ok (a, rest)) :
    ∃ t, ∀ w', readAuthority kind scheme (s ++ '/' :: w') = .ok (a, t ++ '/' :: w') := by
  have hslash : (!endsAuthority kind '/') = false := rfl
  have htake (w' : List Char) := takeWhile_append_stop (p := (!endsAuthority kind ·)) hslash s w'
  have hdrop (w' : List Char) := dropWhile_append_stop (p := (!endsAuthority kind ·)) hslash s w'
  have hbehind (w' : List Char) : s.dropWhile (!endsAuthority kind ·) ++ '/' :: w' ≠ [] :=
    List.append_ne_nil_of_right_ne_nil _ (List.cons_ne_nil _ _)
  rw [readAuthority, htake, hdrop] at h
  rcases hparts : splitUser (s.takeWhile (!endsAuthority kind ·)) with ⟨user, hostPort⟩
  rw [hparts] at h
  dsimp only at h
  split at h
  · cases h
  · next hhost =>
    split at h
    · cases h
    · next read host port more hread =>
      split at h
      · cases h
      · next hempty =>
        cases h
        refine ⟨more ++ s.dropWhile (!endsAuthority kind ·), fun w' => ?_⟩
        rw [readAuthority, htake, hdrop, hparts]
        dsimp only
        rw [if_neg (fun h => hhost ⟨h.1, h.2.1, hbehind w⟩), hread]
        dsimp only
        rw [if_neg hempty, List.append_assoc]

/-! ## URLs -/

/-- A URL that ends with a slash of its path. -/
structure IsDirectory (u : Url) : Prop where
  authority : u.authority.isSome = true
  path : u.path.getLast? = some '/'
  query : u.query = none
  fragment : u.fragment = none

/-- The URL with a text behind its path. -/
def behind (u : Url) (w : List Char) : Url := { u with path := u.path ++ w }

/-- A directory is written with its last slash at the end, and what is behind it is written behind
that slash. -/
theorem IsDirectory.text_behind {u : Url} (hu : u.IsDirectory) :
    (∃ front, u.text = front ++ ['/']) ∧ ∀ w, (u.behind w).text = u.text ++ w := by
  obtain ⟨scheme, authority, path, query, fragment⟩ := u
  obtain ⟨hauthority, hpath, rfl, rfl⟩ := hu
  obtain ⟨a, rfl⟩ := Option.isSome_iff_exists.1 hauthority
  have htext (p : List Char) : text ⟨scheme, some a, p, none, none⟩ =
      scheme ++ ':' :: '/' :: '/' :: (a.text ++ p) := by
    simp [text, authorityText, marked]
  constructor
  · obtain ⟨front, rfl⟩ := List.getLast?_eq_some_iff.1 hpath
    refine ⟨scheme ++ ':' :: '/' :: '/' :: (a.text ++ front), ?_⟩
    rw [htext]
    simp
  · intro w
    rw [behind, htext, htext]
    simp

/-- A settled text behind an authority and a slash is behind the path. -/
theorem parseAfterSlashes_append {kind : Kind} {scheme s : List Char} {root : Url}
    (hs : ∀ c ∈ s, endsPath c = false) (h : parseAfterSlashes kind scheme (s ++ ['/']) = .ok root) :
    root.IsDirectory ∧ ∀ w, Settled w →
      parseAfterSlashes kind scheme (s ++ '/' :: w) = .ok (root.behind w) := by
  cases hread : readAuthority kind scheme (s ++ ['/']) with
  | error fault =>
    rw [parseAfterSlashes, hread] at h
    cases h
  | ok read =>
    obtain ⟨a, rest⟩ := read
    obtain ⟨t, ht⟩ := readAuthority_append hread
    obtain ⟨front, hfront⟩ := exists_readPath_append kind t
    -- all that is behind the authority is path
    have ht_path : ∀ c ∈ t, endsPath c = false := by
      intro c hc
      have hmem := mem_of_readAuthority (ht []) c (List.mem_append_left _ hc)
      rcases List.mem_append.1 hmem with hmem | hmem
      · exact hs c hmem
      · obtain rfl := List.mem_singleton.1 hmem
        rfl
    have hwhole (w : List Char) (hw : Settled w) : parseAfterSlashes kind scheme (s ++ '/' :: w) =
        .ok ⟨scheme, some a, front ++ '/' :: w, none, none⟩ := by
      have hpath : ∀ c ∈ t ++ '/' :: w, (!endsPath c) = true := by
        rw [List.forall_mem_append, List.forall_mem_cons]
        exact ⟨fun c hc => by rw [ht_path c hc]; rfl, rfl,
          fun c hc => by rw [hw.endsPath c hc]; rfl⟩
      rw [parseAfterSlashes, ht w]
      dsimp only
      rw [List.takeWhile_eq_self_iff.2 hpath, List.dropWhile_eq_nil_iff.2 hpath, hfront w hw]
      rfl
    obtain rfl := Except.ok.inj (h.symm.trans (hwhole [] settled_nil))
    refine ⟨⟨rfl, List.getLast?_concat, rfl, rfl⟩, fun w hw => ?_⟩
    rw [hwhole w hw, behind, List.append_assoc]
    rfl

/-! ## Schemes -/

theorem scheme_of_parseAfterSlashes {kind : Kind} {scheme s : List Char} {u : Url}
    (h : parseAfterSlashes kind scheme s = .ok u) : u.scheme = scheme := by
  rw [parseAfterSlashes] at h
  split at h
  · cases h
  · cases h
    rfl

theorem scheme_of_parseOther {scheme s : List Char} {u : Url}
    (h : parseOther scheme s = .ok u) : u.scheme = scheme := by
  rw [parseOther.eq_def] at h
  split at h
  · exact scheme_of_parseAfterSlashes h
  · cases h
    rfl

theorem scheme_of_parseFile {scheme s : List Char} {u : Url}
    (h : parseFile scheme s = .ok u) : u.scheme = scheme := by
  rw [parseFile] at h
  split at h
  · cases h
    rfl
  · split at h
    · cases h
      rfl
    · dsimp only at h
      split at h
      · cases h
      · cases h
        rfl
      · cases h
        rfl

theorem suffix_of_splitScheme? {s scheme rest : List Char}
    (h : splitScheme? s = some (scheme, rest)) : rest <:+ s := by
  rw [splitScheme?] at h
  split at h
  · next hdrop =>
    split at h
    · cases h
      have hsuffix := List.dropWhile_suffix (l := s) isSchemeCharacter
      rw [hdrop] at hsuffix
      exact (List.suffix_cons ':' rest).trans hsuffix
    · cases h
  · cases h

/-! ## Texts -/

/-- The scheme of a text that is read is the one that stands in front of its first colon. -/
theorem scheme_of_parseChars {s : List Char} {u : Url} (h : parseChars s = .ok u) :
    ∃ rest, splitScheme? (clean (strip s)) = some (u.scheme, rest) := by
  rw [parseChars] at h
  split at h
  · cases h
  · next scheme rest hscheme =>
    refine ⟨rest, ?_⟩
    rw [hscheme]
    split at h
    · rw [scheme_of_parseAfterSlashes h]
    · rw [scheme_of_parseFile h]
    · rw [scheme_of_parseOther h]

/-- A text is read from its authority on if the scheme is a special one. -/
theorem parseChars_of_special {s scheme rest : List Char}
    (hscheme : splitScheme? (clean (strip s)) = some (scheme, rest))
    (hspecial : kindOf scheme = .special) :
    parseChars s = parseAfterSlashes .special scheme (rest.dropWhile (isSlash .special)) := by
  rw [parseChars, hscheme]
  dsimp only
  rw [hspecial]

/-- **A settled text behind a base stands behind the path of the base.**  There must be neither a
question mark nor a number sign in the base, and its scheme has to be a special one. -/
theorem parseChars_append {base : List Char} {root : Url} (hbase : ∀ c ∈ base, endsPath c = false)
    (h : parseChars (base ++ ['/']) = .ok root) (hspecial : kindOf root.scheme = .special) :
    root.IsDirectory ∧ ∀ w, Settled w → parseChars (base ++ '/' :: w) = .ok (root.behind w) := by
  have hclean (w : List Char) (hw : Settled w) : clean (strip (base ++ '/' :: w)) =
      clean (base.dropWhile isOuter) ++ '/' :: w := by
    rw [strip_append hw.isPlain, clean_append hw.isPlain]
  have hfront : ∀ c ∈ clean (base.dropWhile isOuter), endsPath c = false :=
    fun c hc => hbase c ((List.dropWhile_suffix _).subset (List.mem_filter.1 hc).1)
  -- the scheme is in the base
  obtain ⟨rest', hscheme'⟩ := scheme_of_parseChars h
  rw [hclean [] settled_nil, splitScheme?_append, Option.map_eq_some_iff] at hscheme'
  obtain ⟨⟨scheme, rest⟩, hscheme, hpair⟩ := hscheme'
  obtain rfl : scheme = root.scheme := congrArg Prod.fst hpair
  have hparse (w : List Char) (hw : Settled w) : parseChars (base ++ '/' :: w) =
      parseAfterSlashes .special root.scheme ((rest ++ '/' :: w).dropWhile (isSlash .special)) := by
    refine parseChars_of_special ?_ hspecial
    rw [hclean w hw, splitScheme?_append, hscheme]
    rfl
  rw [hparse [] settled_nil] at h
  by_cases hslashes : (rest.dropWhile (isSlash .special)).isEmpty = true
  · -- there are nothing but slashes, so there is no host
    rw [List.dropWhile_append, if_pos hslashes] at h
    cases h
  · have hdrop (w : List Char) : (rest ++ '/' :: w).dropWhile (isSlash .special) =
        rest.dropWhile (isSlash .special) ++ '/' :: w := by
      rw [List.dropWhile_append, if_neg hslashes]
    have hrest : ∀ c ∈ rest.dropWhile (isSlash .special), endsPath c = false := fun c hc =>
      hfront c ((suffix_of_splitScheme? hscheme).subset ((List.dropWhile_suffix _).subset hc))
    rw [hdrop] at h
    obtain ⟨hdirectory, hbehind⟩ := parseAfterSlashes_append hrest h
    refine ⟨hdirectory, fun w hw => ?_⟩
    rw [hparse w hw, hdrop]
    exact hbehind w hw

end AccountAdmin.Url
