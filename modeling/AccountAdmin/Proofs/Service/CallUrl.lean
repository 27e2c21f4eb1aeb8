import AccountAdmin.Proofs.Account.UserIdNumeral
import AccountAdmin.Proofs.Console.BaseUrl
import AccountAdmin.Proofs.Url.KeptPrefix

/-!
# The URLs of calls

The base URL of an endpoint is a text that somebody has written, and the URL of a call is what that
text and the path of the call are read as.  Whatever there is in the base URL, in dots, escapes,
empty segments, slashes of either kind and characters that are skipped, is gone through in the same
way for every call, since no path of the service has anything in it that could be taken for more
than characters of a path (`Call.exists_settled_path`).  So the URL of the single slash, with which
an endpoint is checked, tells the URLs of all calls.

* `Endpoint.resolve_append_slashes`: slashes at the end of a base URL make no difference.
* `Endpoint.scheme_of_resolve`: the URLs of all calls have the same scheme.
* `base_prefix_kept`: the URL of a call is the one of the single slash with the path of the call in
  place of the slash.
-/

namespace AccountAdmin

/-! ## The paths of the service -/

/-- The text of an id stands in a path as it is. -/
theorem UserId.settled_text (id : UserId) : Url.Settled id.text.toList := by
  have hdigits : ∀ n < 10, Text.digitChar n ∈ Url.settledCharacters := by decide +kernel
  intro c hc
  rw [text, String.toList_ofList] at hc
  rcases Text.of_mem_decimalInt hc with rfl | hdigit
  · decide
  · obtain ⟨hlt, hchar⟩ := Text.digitChar_of_isDigit ((Text.isDigit_eq c).symm.trans hdigit)
    exact hchar ▸ hdigits _ hlt

namespace Call

/-- The path of a call is a slash and a text that stands in a path as it is. -/
theorem exists_settled_path (call : Call) :
    ∃ w, call.path.toList = '/' :: w ∧ Url.Settled w := by
  have hword (s : String) {w : List Char} (hpath : call.path = s) (hs : s.toList = '/' :: w)
      (hw : Url.Settled w) : ∃ w, call.path.toList = '/' :: w ∧ Url.Settled w :=
    ⟨w, by rw [hpath, hs], hw⟩
  have huser (id : UserId) : ("/user/" ++ id.text).toList =
      '/' :: ("user/".toList ++ id.text.toList) := by
    rw [String.toList_append]
    rfl
  have hsettled (id : UserId) : Url.Settled ("user/".toList ++ id.text.toList) :=
    .append (by decide +kernel) id.settled_text
  cases call with
  | authenticate =>
    exact hword "/authenticate" (w := "authenticate".toList) rfl rfl (by decide +kernel)
  | current => exact hword "/user" (w := "user".toList) rfl rfl (by decide +kernel)
  | list => exact hword "/user/list" (w := "user/list".toList) rfl rfl (by decide +kernel)
  | create => exact hword "/user/create" (w := "user/create".toList) rfl rfl (by decide +kernel)
  | changePassword =>
    exact hword "/user/change-password" (w := "user/change-password".toList) rfl rfl
      (by decide +kernel)
  | updateDetails =>
    exact hword "/user/details" (w := "user/details".toList) rfl rfl (by decide +kernel)
  | setStatus => exact hword "/user/status" (w := "user/status".toList) rfl rfl (by decide +kernel)
  | get id | delete id => exact hword ("/user/" ++ id.text) rfl (huser id) (hsettled id)
  | resetPassword id =>
    refine hword ("/user/" ++ id.text ++ "/reset-password")
      (w := "user/".toList ++ id.text.toList ++ "/reset-password".toList) rfl ?_
      (.append (hsettled id) (by decide +kernel))
    rw [String.toList_append, huser, List.cons_append]

end Call

/-! ## Base URLs -/

namespace Endpoint

theorem mem_of_mem_trimSlashes {s : String} {c : Char} (h : c ∈ trimSlashes s) : c ∈ s.toList := by
  rw [trimSlashes, List.mem_reverse] at h
  exact List.mem_reverse.1 ((List.dropWhile_suffix _).subset h)

theorem trimSlashes_append (s : String) (n : Nat) :
    trimSlashes (s ++ String.ofList (List.replicate n '/')) = trimSlashes s := by
  have hslashes : ∀ c ∈ List.replicate n '/', (c == '/') = true := by
    intro c hc
    rw [List.eq_of_mem_replicate hc]
    rfl
  rw [trimSlashes, trimSlashes, String.toList_append, String.toList_ofList, List.reverse_append,
    List.reverse_replicate, List.dropWhile_append_of_pos hslashes]

/-- Slashes at the end of a base URL make no difference, to whatever path. -/
theorem resolve_append_slashes (e : Endpoint) (n : Nat) (path : String) :
    { e with baseUrl := e.baseUrl ++ String.ofList (List.replicate n '/') }.resolve path =
      e.resolve path := by
  rw [resolve, resolve, joined, joined, trimSlashes_append]

end Endpoint

/-- **The prefix of the base URL is kept.**  Let the base URL be one of a special scheme, such as
`http`, with neither a question mark nor a number sign in it, and let it resolve the single slash.
Then it resolves the path of every call.  The URL of the call is written like that of the single
slash with the path of the call in place of the last slash; the scheme, the user, the host and the
port are the same, and the path begins with the same path.  Slashes at the end of the base URL make
no difference. -/
theorem base_prefix_kept {e : Endpoint} {root : Url} (hroot : e.resolve "/" = .ok root)
    (hspecial : Url.kindOf root.scheme = .special)
    (hbase : '?' ∉ e.baseUrl.toList ∧ '#' ∉ e.baseUrl.toList) :
    (∃ (front : String) (above : List Char), root.toString = front ++ "/" ∧
      root.path = above ++ ['/'] ∧
      ∀ call : Call, ∃ url, e.resolve call.path = .ok url ∧ url.toString = front ++ call.path ∧
        url.scheme = root.scheme ∧ url.authority = root.authority ∧
          url.path = above ++ call.path.toList) ∧
    ∀ (n : Nat) (path : String),
      { e with baseUrl := e.baseUrl ++ String.ofList (List.replicate n '/') }.resolve path =
        e.resolve path := by
  refine ⟨?_, e.resolve_append_slashes⟩
  have hends : ∀ c ∈ Endpoint.trimSlashes e.baseUrl, Url.endsPath c = false := by
    intro c hc
    have hmem := Endpoint.mem_of_mem_trimSlashes hc
    rw [Url.endsPath, Bool.or_eq_false_iff, beq_eq_false_iff_ne, beq_eq_false_iff_ne]
    exact ⟨ne_of_mem_of_not_mem hmem hbase.1, ne_of_mem_of_not_mem hmem hbase.2⟩
  rw [Endpoint.resolve, Endpoint.joined_of_slash (w := []) e.baseUrl rfl] at hroot
  obtain ⟨hdirectory, hbehind⟩ := Url.parseChars_append hends hroot hspecial
  obtain ⟨⟨front, hfront⟩, htext⟩ := hdirectory.text_behind
  obtain ⟨above, habove⟩ := List.getLast?_eq_some_iff.1 hdirectory.path
  refine ⟨String.ofList front, above, ?_, habove, fun call => ?_⟩
  · rw [Url.toString, hfront, String.ofList_append]
  · obtain ⟨w, hpath, hw⟩ := call.exists_settled_path
    refine ⟨root.behind w, ?_, ?_, rfl, rfl, ?_⟩
    · rw [Endpoint.resolve, Endpoint.joined_of_slash e.baseUrl hpath]
      exact hbehind w hw
    · rw [Url.toString, htext w, hfront, ← String.toList_inj, String.toList_ofList,
        String.toList_append, String.toList_ofList, hpath, List.append_assoc]
      rfl
    · rw [Url.behind, habove, hpath, List.append_assoc]
      rfl

/-- A base URL with slashes of both kinds, the default port, an escaped double dot, a blank and
empty segments in it. -/
theorem base_prefix_kept_untidy :
    let e : Endpoint := { baseUrl := "HTTP:\\\\Host:80/x/%2e%2E/re st//./" }
    ∃ url, e.resolve (Call.get { value := 7 }).path = .ok url ∧
      url.toString = "http://host/re%20st//user/7" := by
  intro e
  have htext : UserId.text { value := 7 } = "7" := by decide +kernel
  have htoString : (e.resolve "/").toOption.map Url.toString = some "http://host/re%20st//" := by
    decide +kernel
  have hscheme : (e.resolve "/").toOption.map Url.scheme = some "http".toList := by decide +kernel
  cases hroot : e.resolve "/" with
  | error fault =>
    rw [hroot] at htoString
    cases htoString
  | ok root =>
    rw [hroot] at htoString hscheme
    have hspecial : Url.kindOf root.scheme = .special := by
      rw [Option.some.inj hscheme]
      rfl
    obtain ⟨⟨front, above, hfront, -, hcall⟩, -⟩ := base_prefix_kept hroot hspecial
      (by decide +kernel)
    obtain ⟨url, hurl, hurlText, -⟩ := hcall (.get { value := 7 })
    have hfront' : front = "http://host/re%20st/" := by
      have happend : front ++ "/" = "http://host/re%20st/" ++ "/" :=
        hfront.symm.trans (Option.some.inj htoString)
      exact String.append_left_inj "/" |>.1 happend
    refine ⟨url, hurl, ?_⟩
    rw [hurlText, hfront', Call.path, htext]
    rfl

end AccountAdmin
