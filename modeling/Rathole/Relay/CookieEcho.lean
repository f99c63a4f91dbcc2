import Rathole.Proxy.CookieJar
import Rathole.Relay.ForwardedResponse

/-!
# The Tunnel Cookie There and Back

`insert_tunnel_cookie` puts the id of a tunnel into a `Set-Cookie` header,
and `get_cookie_value` reads it from the `Cookie` header of a later request.
In between is a browser. The id is chosen by the tunnel client and is written
into the header as it is, without any encoding. So a semicolon in it ends the
value early, blanks at its ends are lost, a control character is a panic, and
what is not ASCII makes the whole header unreadable. Every other id comes
back, from a response that has room for a header more.

The cookies that come with it matter as well: one that is not visible ASCII
makes the header unreadable for the proxy.

## Main definitions

* `Plain`: An id that can be in a cookie.
* `RoundTrips`: The id comes back.

## Theorems

* `stored_tunnelCookie`: What a browser keeps.
* `roundTrips_iff`: When an id comes back.
* `semicolon_cut`: An id that does not.
-/

namespace Rathole

open Overwrite Proxy Separated

namespace Relay

/-- The id is visible ASCII without a semicolon, and has no blanks at its
    ends. -/
structure Plain (id : String) : Prop where
  visible : ∀ b ∈ utf8 id, isVisibleAscii b = true
  unsplit : ∀ b ∈ utf8 id, b ≠ semicolon
  bare : Bare isBlank (utf8 id)

/-- The tunnel's cookie can be set on the response, and it is read from a
    request in which a browser sends what it has kept of it, after and before
    other cookies. -/
def RoundTrips (env : Env) (id : String) (resp : Response) (before after : List Cookie) : Prop :=
  ∃ resp' setCookie, insertTunnelCookie env resp id = some resp' ∧
    valuesOf resp'.headers "set-cookie" = [setCookie] ∧
    ∀ headers : HeaderMap,
      headers.get "cookie" = some (cookieHeader (before ++ storedCookie setCookie :: after)) →
        getCookieValue headers "tunnel" = some id

variable {env : Env} {id : String} {resp : Response} {before after : List Cookie}

/-! ### What a browser keeps -/

theorem utf8_tunnelCookie (id : String) :
    utf8 (tunnelCookie id) = utf8 "tunnel=" ++ (utf8 id ++ utf8 "; Path=/; HttpOnly") := by
  rw [tunnelCookie, utf8_append, utf8_append, List.append_assoc]

/-- The attributes after the id start with a semicolon, and are cut off. -/
theorem takeWhile_attributes (v : List UInt8) :
    nameValuePair (v ++ utf8 "; Path=/; HttpOnly") = nameValuePair v := by
  have hattributes : ∃ rest, utf8 "; Path=/; HttpOnly" = semicolon :: rest := ⟨_, rfl⟩
  rcases hattributes with ⟨rest, hrest⟩
  rw [hrest, nameValuePair, nameValuePair]
  induction v with
  | nil => rfl
  | cons b v ih =>
      rw [List.cons_append, List.takeWhile_cons, List.takeWhile_cons, ih]

theorem stored_tunnelCookie (id : String) :
    (storedCookie (utf8 (tunnelCookie id))).name = utf8 "tunnel" ∧
      (storedCookie (utf8 (tunnelCookie id))).value = strip isBlank (nameValuePair (utf8 id)) := by
  have hpair : nameValuePair (utf8 (tunnelCookie id)) =
      utf8 "tunnel=" ++ nameValuePair (utf8 id) := by
    rw [← takeWhile_attributes (utf8 id), utf8_tunnelCookie]
    rfl
  constructor
  · rw [storedCookie_name, hpair]
    rfl
  · rw [storedCookie_value, hpair]
    rfl

theorem stored_of_plain (h : Plain id) :
    (storedCookie (utf8 (tunnelCookie id))).value = utf8 id := by
  have hpair : nameValuePair (utf8 id) = utf8 id := by
    rw [nameValuePair, List.takeWhile_eq_self_iff]
    intro b hb
    rw [bne_iff_ne]
    exact h.unsplit b hb
  rw [(stored_tunnelCookie id).2, hpair, strip_of_bare h.bare]

/-- What is kept is the whole id only if nothing was to be cut off. -/
theorem plain_of_stored (h : (storedCookie (utf8 (tunnelCookie id))).value = utf8 id)
    (hvis : ∀ b ∈ utf8 id, isVisibleAscii b = true) : Plain id := by
  rw [(stored_tunnelCookie id).2] at h
  refine ⟨hvis, ?_, ?_⟩
  · intro b hb
    rw [← h] at hb
    exact mem_nameValuePair (mem_of_mem_strip hb)
  · rw [← h]
    exact bare_strip isBlank _

/-! ### What the proxy reads -/

theorem isVisibleAscii_tunnel : (utf8 "tunnel").all isVisibleAscii = true := by decide

theorem latin1_tunnel : latin1 (utf8 "tunnel") = "tunnel".toList := by decide

/-- Of the cookies before and after it none has the name. -/
theorem find_stored (id : String) (hnames : ∀ c ∈ before ++ after, c.name ≠ utf8 "tunnel") :
    (before ++ storedCookie (utf8 (tunnelCookie id)) :: after).find?
        (fun c => latin1 c.name = "tunnel".toList) =
      some (storedCookie (utf8 (tunnelCookie id))) := by
  rw [List.find?_append, List.find?_eq_none.mpr ?_, Option.none_or, List.find?_cons]
  · rw [(stored_tunnelCookie id).1, latin1_tunnel, decide_eq_true rfl]
  · intro c hc heq
    rw [decide_eq_true_eq, ← latin1_tunnel, latin1_inj] at heq
    exact hnames c (List.mem_append_left _ hc) heq

theorem visible_of_plain (h : Plain id) : (storedCookie (utf8 (tunnelCookie id))).Visible := by
  have hequals : isVisibleAscii equalsSign = true := by decide
  rw [Cookie.Visible, Cookie.pair, (stored_tunnelCookie id).1, stored_of_plain h, List.all_append,
    List.all_cons, isVisibleAscii_tunnel, hequals, Bool.true_and, Bool.true_and, List.all_eq_true]
  exact h.visible

theorem forall_stored (p : Cookie → Prop) : (∀ c ∈ before ++ storedCookie (utf8 (tunnelCookie id))
      :: after, p c) ↔ p (storedCookie (utf8 (tunnelCookie id))) ∧ ∀ c ∈ before ++ after, p c := by
  simp only [List.mem_append, List.mem_cons, or_imp, forall_and, forall_eq]
  exact and_left_comm

/-- The id can be read back if it is plain and everything else is visible. -/
theorem getCookieValue_stored (hnames : ∀ c ∈ before ++ after, c.name ≠ utf8 "tunnel")
    {headers : HeaderMap} (hget : headers.get "cookie" =
      some (cookieHeader (before ++ storedCookie (utf8 (tunnelCookie id)) :: after))) :
    getCookieValue headers "tunnel" = some id ↔ Plain id ∧ ∀ c ∈ before ++ after, c.Visible := by
  have hread := getCookieValue_cookieHeader "tunnel" hget
    (List.append_ne_nil_of_right_ne_nil before (List.cons_ne_nil _ after)) (by decide)
  rw [find_stored id hnames, forall_stored] at hread
  constructor
  · intro hid
    by_cases hvis : (storedCookie (utf8 (tunnelCookie id))).Visible ∧
        ∀ c ∈ before ++ after, c.Visible
    · rw [hread.1 hvis, Option.map_some, Option.some.injEq] at hid
      -- What is read has the bytes that were kept, as they are all visible.
      have hbytes : ∀ b ∈ (storedCookie (utf8 (tunnelCookie id))).value,
          isVisibleAscii b = true := fun b hb =>
        List.all_eq_true.mp hvis.1 b (List.mem_append_right _ (List.mem_cons_of_mem _ hb))
      have hutf8 := utf8_latin1 (fun b hb => toNat_lt_of_visible (hbytes b hb))
      rw [hid] at hutf8
      exact ⟨plain_of_stored hutf8.symm (by rwa [hutf8]), hvis.2⟩
    · -- `to_str` fails on the whole header.
      rw [hread.2 hvis] at hid
      simp only [reduceCtorEq] at hid
  · rintro ⟨hplain, hothers⟩
    rw [hread.1 ⟨visible_of_plain hplain, hothers⟩, Option.map_some, stored_of_plain hplain,
      latin1_utf8 id (fun b hb => toNat_lt_of_visible (hplain.visible b hb)),
      String.ofList_toList]

/-! ### The round trip -/

/-- The cookie's text around the id is visible ASCII. -/
theorem visible_tunnelCookie (h : Plain id) :
    ∀ b ∈ utf8 (tunnelCookie id), isVisibleAscii b = true := by
  have hfront : (utf8 "tunnel=").all isVisibleAscii = true := by decide
  have hback : (utf8 "; Path=/; HttpOnly").all isVisibleAscii = true := by decide
  intro b hb
  rw [utf8_tunnelCookie] at hb
  rcases List.mem_append.mp hb with hb | hb
  · exact List.all_eq_true.mp hfront b hb
  · rcases List.mem_append.mp hb with hb | hb
    · exact h.visible b hb
    · exact List.all_eq_true.mp hback b hb

/-- A cookie that is set is the only one. -/
theorem valuesOf_insertTunnelCookie {resp' : Response}
    (h : insertTunnelCookie env resp id = some resp') :
    valuesOf resp'.headers "set-cookie" = [utf8 (tunnelCookie id)] := by
  rw [← (insertTunnelCookie_eq_some_iff.mp h).2]
  exact valuesOf_overwrite_self _ _ _

theorem plain_of_roundTrips (hnames : ∀ c ∈ before ++ after, c.name ≠ utf8 "tunnel")
    (h : RoundTrips env id resp before after) : Plain id ∧ ∀ c ∈ before ++ after, c.Visible := by
  rcases h with ⟨resp', setCookie, hinsert, hvalues, hread⟩
  rw [valuesOf_insertTunnelCookie hinsert, List.cons.injEq] at hvalues
  rw [← hvalues.1] at hread
  have hget : HeaderMap.get
      [("cookie", cookieHeader (before ++ storedCookie (utf8 (tunnelCookie id)) :: after))]
      "cookie" = some (cookieHeader (before ++ storedCookie (utf8 (tunnelCookie id)) :: after)) :=
    rfl
  exact (getCookieValue_stored hnames hget).mp (hread _ hget)

/-- Given that visible ASCII can be a header value, an id comes back exactly
    if it is plain, all other cookies are visible ASCII, and the response has
    room for the cookie. -/
theorem roundTrips_iff (env : Env) (id : String) (resp : Response) (before after : List Cookie)
    (hvalue : ∀ text, (∀ b ∈ utf8 text, isVisibleAscii b = true) → env.headerValue text = true)
    (hnames : ∀ c ∈ before ++ after, c.name ≠ utf8 "tunnel") :
    RoundTrips env id resp before after ↔ Plain id ∧ (∀ c ∈ before ++ after, c.Visible) ∧
      env.room resp.headers = true := by
  constructor
  · intro h
    have hplain := plain_of_roundTrips hnames h
    rcases h with ⟨resp', setCookie, hinsert, _, _⟩
    exact ⟨hplain.1, hplain.2, (insertTunnelCookie_eq_some_iff.mp hinsert).1.2⟩
  · rintro ⟨hplain, hothers, hroom⟩
    have hcookie := hvalue _ (visible_tunnelCookie hplain)
    refine ⟨_, utf8 (tunnelCookie id), insertTunnelCookie_eq_some_iff.mpr ⟨⟨hcookie, hroom⟩, rfl⟩,
      valuesOf_overwrite_self _ _ _, fun headers hget => ?_⟩
    exact (getCookieValue_stored hnames hget).mpr ⟨hplain, hothers⟩

/-- An environment with the header values of the `http` crate: no control
    characters but the tab, and no `DEL`. -/
def Env.httpValues : Env where
  fromStr := Env.oneToken.fromStr
  decode := Env.oneToken.decode
  headerName := Env.oneToken.headerName
  headerValue := fun text => (utf8 text).all (fun b => (32 ≤ b && b != 127) || b == 9)
  room := Env.oneToken.room
  overflowChecks := false

theorem httpValues_visible (text : String) (h : ∀ b ∈ utf8 text, isVisibleAscii b = true) :
    Env.httpValues.headerValue text = true := by
  refine List.all_eq_true.mpr (fun b hb => ?_)
  have hvis := h b hb
  simp only [isVisibleAscii, Bool.or_eq_true, Bool.and_eq_true, decide_eq_true_eq,
    beq_iff_eq] at hvis
  rcases hvis with ⟨hle, hlt⟩ | htab
  · have hne : (b != 127) = true := by
      rw [bne_iff_ne]
      rintro rfl
      exact absurd hlt (by decide)
    simp only [hle, decide_true, hne, Bool.and_self, Bool.true_or]
  · rw [htab]
    rfl

/-- The cookie of a session at the application. -/
def sessionCookie : Cookie := storedCookie (utf8 "session=1; Path=/")

/-- A response without headers. -/
def emptyResponse : Response where
  status := 200
  headers := []
  body := []

theorem roundTrips_app : RoundTrips Env.httpValues "app-01" emptyResponse [sessionCookie] [] := by
  have hplain : Plain "app-01" :=
    ⟨List.all_eq_true.mp (by decide), List.forall_mem_ne'.mpr (by decide), bare_iff.mpr (by decide)⟩
  exact (roundTrips_iff Env.httpValues "app-01" emptyResponse [sessionCookie] []
    httpValues_visible (by decide)).mpr ⟨hplain, by decide, by decide⟩

/-- Of the id `a;b` only the `a` comes back. -/
theorem semicolon_cut :
    ¬ ∀ (env : Env) (id : String) (resp : Response) (before after : List Cookie),
      (∀ text, (∀ b ∈ utf8 text, isVisibleAscii b = true) → env.headerValue text = true) →
      (∀ c ∈ before ++ after, c.name ≠ utf8 "tunnel") → env.room resp.headers = true →
      RoundTrips env id resp before after := by
  intro h
  have hnames : ∀ c ∈ ([] : List Cookie) ++ [], c.name ≠ utf8 "tunnel" := by
    intro c hc
    exact absurd hc List.not_mem_nil
  have hplain := plain_of_roundTrips hnames
    (h Env.httpValues "a;b" emptyResponse [] [] httpValues_visible hnames (by decide))
  exact hplain.1.unsplit semicolon (by decide) rfl

end Relay

end Rathole
