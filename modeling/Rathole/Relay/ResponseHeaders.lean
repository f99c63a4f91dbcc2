import Rathole.Relay.ForwardedResponse

/-!
# The Headers of a Proxied Response

What becomes of the headers of a tunnel client's `HttpResponse` in the
response of `proxy_handler`. Both `forward_via_tunnel` and
`insert_tunnel_cookie` use `insert`, which replaces what is under a name, so
of a name that comes again only the last value is left, and of the cookies of
the response none. And `insert` needs room in the map, once for every header
and once for the cookie.

## Main definitions

* `Unchanged`: Nothing was lost, and nothing added but the cookie.

## Theorems

* `proxyResponse_eq_ok_iff`: The response, and when there is one.
* `unchanged_iff`: When a response gets through unchanged.
* `backend_cookie_lost`: A response that does not.
-/

namespace Rathole

open Http Overwrite Proxy

namespace Relay

/-- The response has the status and the body, the values of every other header
    as they were, and under `set-cookie` the cookie of the tunnel besides. -/
def Unchanged (env : Env) (id : String) (res : HttpResponse) : Prop :=
  ∃ resp, proxyResponse env id res = some (.ok resp) ∧ resp.status = res.status ∧
    resp.body = res.body ∧
    (∀ name, name ≠ "set-cookie" →
      (valuesOf resp.headers name).Perm (valuesOf res.entries name)) ∧
    (valuesOf resp.headers "set-cookie").Perm
      (valuesOf res.entries "set-cookie" ++ [utf8 (tunnelCookie id)])

variable {env : Env} {id : String} {res : HttpResponse}

/-- All headers one by one and then the cookie, if they and the cookie are
    valid and there is room for each of them. -/
theorem proxyResponse_eq_ok_iff {resp : Response} (hs : statusValid res.status = true)
    (hv : headersValid env res = true) : proxyResponse env id res = some (.ok resp) ↔
      (env.headerValue (tunnelCookie id) = true ∧ Fits env.crate [] res.headers ∧
        env.room (overwriteAll [] res.entries) = true) ∧
      { status := res.status
        headers := overwriteAll [] (res.entries ++ [("set-cookie", utf8 (tunnelCookie id))])
        body := res.body } = resp := by
  have hbuild : ∀ built, buildResponse env res = some (.ok built) ↔
      Fits env.crate [] res.headers ∧
        { status := res.status, headers := overwriteAll [] res.entries, body := res.body } =
          built := by
    intro built
    rw [buildResponse_eq_ok_iff, hs, hv]
    simp only [true_and]
  rw [overwriteAll_append]
  constructor
  · intro h
    unfold proxyResponse at h
    rcases hb : buildResponse env res with _ | ⟨code⟩ | ⟨built⟩
    · simp only [hb, reduceCtorEq] at h
    · simp only [hb, Option.some.injEq, reduceCtorEq] at h
    · rcases (hbuild built).mp hb with ⟨hfits, rfl⟩
      simp only [hb, Option.map_eq_some_iff, Except.ok.injEq, exists_eq_right,
        insertTunnelCookie_eq_some_iff] at h
      exact ⟨⟨h.1.1, hfits, h.1.2⟩, h.2⟩
  · rintro ⟨⟨hc, hfits, hroom⟩, hresp⟩
    simp only [proxyResponse, (hbuild _).mpr ⟨hfits, rfl⟩]
    rw [insertTunnelCookie_eq_some_iff.mpr ⟨⟨hc, hroom⟩, rfl⟩, ← hresp]
    rfl

/-! ### When nothing is lost -/

/-- The two parts of what is asked of the headers, as one. -/
theorem sameValues_iff (headers entries : HeaderMap) (cookie : List UInt8) :
    SameValues headers (entries ++ [("set-cookie", cookie)]) ↔
      (∀ name, name ≠ "set-cookie" → (valuesOf headers name).Perm (valuesOf entries name)) ∧
        (valuesOf headers "set-cookie").Perm (valuesOf entries "set-cookie" ++ [cookie]) := by
  have hcookie : valuesOf (entries ++ [("set-cookie", cookie)]) "set-cookie" =
      valuesOf entries "set-cookie" ++ [cookie] := by
    rw [valuesOf_append, valuesOf_cons_self]
    rfl
  have hother : ∀ name, name ≠ "set-cookie" →
      valuesOf (entries ++ [("set-cookie", cookie)]) name = valuesOf entries name := by
    intro name hname
    rw [valuesOf_append, valuesOf_cons_ne (Ne.symm hname)]
    exact List.append_nil _
  constructor
  · intro h
    refine ⟨?_, ?_⟩
    · intro name hname
      rw [← hother name hname]
      exact h name
    · rw [← hcookie]
      exact h "set-cookie"
  · rintro ⟨hrest, hset⟩ name
    by_cases hname : name = "set-cookie"
    · rw [hname, hcookie]
      exact hset
    · rw [hother name hname]
      exact hrest name hname

/-- A response with a valid status and valid headers gets through unchanged
    exactly if no header name comes again in it, `set-cookie` does not come at
    all, the tunnel's id can be in a cookie, and the header map has room for
    every header and then for the cookie. -/
theorem unchanged_iff (env : Env) (id : String) (res : HttpResponse)
    (hs : statusValid res.status = true) (hv : headersValid env res = true) :
    Unchanged env id res ↔ env.headerValue (tunnelCookie id) = true ∧
      (res.headers.map (fun h => lowercase h.1)).Nodup ∧
        "set-cookie" ∉ res.headers.map (fun h => lowercase h.1) ∧
          Fits env.crate [] res.headers ∧ env.room res.entries = true := by
  have hkeys : res.entries.map Prod.fst = res.headers.map (fun h => lowercase h.1) := by
    rw [HttpResponse.entries, List.map_map]
    rfl
  have hnodup : SameValues
      (overwriteAll [] (res.entries ++ [("set-cookie", utf8 (tunnelCookie id))]))
        (res.entries ++ [("set-cookie", utf8 (tunnelCookie id))]) ↔
      (res.headers.map (fun h => lowercase h.1)).Nodup ∧
        "set-cookie" ∉ res.headers.map (fun h => lowercase h.1) := by
    rw [sameValues_overwriteAll_iff, List.map_append, hkeys, List.map_singleton,
      List.nodup_append_comm, List.singleton_append, List.nodup_cons, and_comm]
  -- Without a name that comes again the map has the headers as they are.
  have hmap : (res.headers.map (fun h => lowercase h.1)).Nodup →
      overwriteAll [] res.entries = res.entries := by
    intro hn
    rw [← hkeys] at hn
    exact overwriteAll_of_nodup hn
  constructor
  · rintro ⟨resp, hresp, _, _, hsame⟩
    rcases (proxyResponse_eq_ok_iff hs hv).mp hresp with ⟨⟨hc, hfits, hroom⟩, rfl⟩
    rw [← sameValues_iff] at hsame
    have hnames := hnodup.mp hsame
    rw [hmap hnames.1] at hroom
    exact ⟨hc, hnames.1, hnames.2, hfits, hroom⟩
  · rintro ⟨hc, hn, hset, hfits, hroom⟩
    rw [← hmap hn] at hroom
    exact ⟨_, (proxyResponse_eq_ok_iff hs hv).mpr ⟨⟨hc, hfits, hroom⟩, rfl⟩, rfl, rfl,
      (sameValues_iff _ _ _).mp (hnodup.mpr ⟨hn, hset⟩)⟩

/-- A page of a tunnel client. -/
def htmlPage : HttpResponse where
  status := 200
  headers := [("Content-Type", "text/html"), ("server", "hyper")]
  body := [60, 112, 62]

theorem unchanged_html : Unchanged .oneToken "app" htmlPage := by
  have hfits : Fits Env.oneToken.crate [] htmlPage.headers :=
    fits_cons.mpr (fun _ => ⟨by decide, fits_cons.mpr (fun _ => ⟨by decide, fits_nil⟩)⟩)
  exact (unchanged_iff .oneToken "app" htmlPage (by decide) (by decide)).mpr
    ⟨by decide, by decide, by decide, hfits, by decide⟩

/-- A page with a cookie of its own. -/
def loginPage : HttpResponse where
  status := 200
  headers := [("content-type", "text/html"), ("set-cookie", "session=1")]
  body := [60, 112, 62]

/-- The cookie of the backend is lost. -/
theorem backend_cookie_lost :
    ¬ ∀ (env : Env) (id : String) (res : HttpResponse), statusValid res.status = true →
      headersValid env res = true → Unchanged env id res := by
  intro h
  rcases h .oneToken "app" loginPage (by decide) (by decide) with ⟨resp, hresp, _, _, _, hcookies⟩
  rw [← ((proxyResponse_eq_ok_iff (by decide) (by decide)).mp hresp).2] at hcookies
  -- One value is left where there should be two.
  exact absurd hcookies.length_eq (by decide)

end Relay

end Rathole
