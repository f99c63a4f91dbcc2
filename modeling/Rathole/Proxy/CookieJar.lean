import Rathole.Proxy.Cookies

/-!
# The Cookies of a Browser

A browser keeps cookies by name and sends them back in one `Cookie` header,
`name=value` with `"; "` between. What it keeps of a `Set-Cookie` header is
the part before the first semicolon, split at the first equals sign, without
the blanks around the name and around the value. So no name and no value it
keeps has a semicolon, no name an equals sign, and none a blank at an end.
That makes the header unambiguous: the proxy finds in it what was put there,
as long as all of it is visible ASCII.

## Main definitions

* `Cookie`: A cookie that is kept.
* `storedCookie`: What is kept of a `Set-Cookie` header.
* `cookieHeader`: The header in which cookies are sent.

## Theorems

* `cookieIn_cookieHeader`: A cookie is found among those that are sent.
* `getCookieValue_cookieHeader`: The proxy reads it.
-/

namespace Rathole

open Separated

namespace Proxy

/-- Blank and tab. -/
def isBlank (b : UInt8) : Bool := b == 32 || b == 9

/-- `;` -/
def semicolon : UInt8 := 59

/-- `=` -/
def equalsSign : UInt8 := 61

/-- A cookie as a browser keeps it. -/
structure Cookie where
  name : List UInt8
  value : List UInt8
  name_plain : ∀ b ∈ name, b ≠ semicolon ∧ b ≠ equalsSign
  value_plain : ∀ b ∈ value, b ≠ semicolon
  name_bare : Bare isBlank name
  value_bare : Bare isBlank value

/-- `name=value` -/
def Cookie.pair (c : Cookie) : List UInt8 := c.name ++ equalsSign :: c.value

/-- Name and value are visible ASCII. -/
def Cookie.Visible (c : Cookie) : Prop := c.pair.all isVisibleAscii = true

instance (c : Cookie) : Decidable c.Visible := inferInstanceAs (Decidable (_ = true))

/-- The `Cookie` header with these cookies. -/
def cookieHeader (cookies : List Cookie) : List UInt8 :=
  [semicolon, 32].intercalate (cookies.map Cookie.pair)

/-- The part of a `Set-Cookie` header before its attributes. -/
def nameValuePair (setCookie : List UInt8) : List UInt8 :=
  setCookie.takeWhile (fun b => b != semicolon)

theorem mem_nameValuePair {b : UInt8} {setCookie : List UInt8} (h : b ∈ nameValuePair setCookie) :
    b ≠ semicolon := by
  have hb := List.mem_takeWhile_imp h
  simpa only [bne_iff_ne] using hb

/-- What is kept of a `Set-Cookie` header that has an equals sign. -/
def storedCookie (setCookie : List UInt8) : Cookie where
  name := strip isBlank ((nameValuePair setCookie).takeWhile (fun b => b != equalsSign))
  value := strip isBlank (((nameValuePair setCookie).dropWhile (fun b => b != equalsSign)).drop 1)
  name_plain := by
    intro b hb
    have hname := mem_of_mem_strip hb
    have hne := List.mem_takeWhile_imp hname
    exact ⟨mem_nameValuePair ((List.takeWhile_sublist _).subset hname),
      by simpa only [bne_iff_ne] using hne⟩
  value_plain := by
    intro b hb
    have hvalue := (List.drop_sublist 1 _).subset (mem_of_mem_strip hb)
    exact mem_nameValuePair ((List.dropWhile_sublist _).subset hvalue)
  name_bare := bare_strip isBlank _
  value_bare := bare_strip isBlank _

theorem storedCookie_name (setCookie : List UInt8) : (storedCookie setCookie).name =
    strip isBlank ((nameValuePair setCookie).takeWhile (fun b => b != equalsSign)) := rfl

theorem storedCookie_value (setCookie : List UInt8) : (storedCookie setCookie).value =
    strip isBlank (((nameValuePair setCookie).dropWhile (fun b => b != equalsSign)).drop 1) := rfl

variable {cookies : List Cookie} {c : Cookie} {headers : HeaderMap} {name : String}

/-! ### Bytes and characters -/

theorem ofNat_toNat_inj {a b : UInt8} : Char.ofNat a.toNat = Char.ofNat b.toNat ↔ a = b := by
  constructor
  · intro h
    have hnat := congrArg Char.toNat h
    rw [toNat_ofNat_of_byte, toNat_ofNat_of_byte] at hnat
    exact UInt8.toNat_inj.mp hnat
  · intro h
    rw [h]

theorem mem_latin1 {b : UInt8} {v : List UInt8} : Char.ofNat b.toNat ∈ latin1 v ↔ b ∈ v := by
  rw [latin1, List.mem_map]
  constructor
  · rintro ⟨b', hb', heq⟩
    rwa [← ofNat_toNat_inj.mp heq]
  · intro hb
    exact ⟨b, hb, rfl⟩

/-- Of the visible bytes the blanks are the white space. -/
theorem isWhitespace_of_visible {b : UInt8} (h : isVisibleAscii b = true) :
    (Char.ofNat b.toNat).isWhitespace = isBlank b := by
  have hall : ∀ n < 128, isVisibleAscii (UInt8.ofNat n) = true →
      (Char.ofNat (UInt8.ofNat n).toNat).isWhitespace = isBlank (UInt8.ofNat n) := by decide
  have hb := hall b.toNat (toNat_lt_of_visible h)
  rw [UInt8.ofNat_toNat] at hb
  exact hb h

theorem latin1_append (v w : List UInt8) : latin1 (v ++ w) = latin1 v ++ latin1 w :=
  List.map_append

theorem latin1_intercalate (sep : List UInt8) (pieces : List (List UInt8)) :
    latin1 (sep.intercalate pieces) = (latin1 sep).intercalate (pieces.map latin1) := by
  induction pieces with
  | nil => rfl
  | cons piece pieces ih =>
      cases pieces with
      | nil => rw [List.map_cons, List.map_nil, List.intercalate_singleton,
          List.intercalate_singleton]
      -- The separator stands between this piece and the next.
      | cons next pieces =>
          rw [List.map_cons, List.map_cons, List.intercalate_cons_cons,
            List.intercalate_cons_cons, ← List.map_cons, ← ih, latin1_append, latin1_append]

/-- A piece of a header that is visible as a whole is visible. -/
theorem all_cookieHeader_iff :
    (cookieHeader cookies).all isVisibleAscii = true ↔ ∀ c ∈ cookies, c.Visible := by
  unfold cookieHeader
  induction cookies with
  | nil =>
      simp only [List.map_nil, List.intercalate_nil, List.all_nil, List.not_mem_nil, false_implies,
        implies_true]
  | cons c cookies ih =>
      rw [List.map_cons, List.forall_mem_cons, Cookie.Visible]
      refine Iff.trans ?_ (and_congr Iff.rfl ih)
      cases cookies with
      | nil =>
          simp only [List.map_nil, List.intercalate_singleton, List.intercalate_nil, List.all_nil,
            and_true]
      | cons next cookies =>
          have hsep : ([semicolon, 32] : List UInt8).all isVisibleAscii = true := by decide
          rw [List.map_cons, List.intercalate_cons_cons, List.all_append, List.all_append, hsep,
            Bool.and_true, Bool.and_eq_true]

/-! ### Reading a cookie -/

/-- A piece of a `Cookie` header is of the cookie whose name it starts with. -/
theorem dropPrefix_pair {n v name : List Char} (hn : '=' ∉ n) (hname : '=' ∉ name) :
    (n ++ '=' :: v).dropPrefix? (name ++ ['=']) = if n = name then some v else none := by
  by_cases h : n = name
  · rw [if_pos h, h, ← List.singleton_append, ← List.append_assoc]
    exact List.dropPrefix?_append_of_beq v (beq_self_eq_true _)
  · rw [if_neg h, Option.eq_none_iff_forall_ne_some]
    intro r hr
    rcases List.dropPrefix?_eq_some_iff.mp hr with ⟨before, heq, hbefore⟩
    rw [eq_of_beq hbefore, List.append_assoc, List.singleton_append] at heq
    -- Both are split at their first equals sign.
    have hsplit := congrArg (List.splitOn '=') heq
    rw [List.splitOn_append_cons_self_of_not_mem hn,
      List.splitOn_append_cons_self_of_not_mem hname, List.cons.injEq] at hsplit
    exact h hsplit.1

theorem latin1_pair (c : Cookie) : latin1 c.pair = latin1 c.name ++ '=' :: latin1 c.value :=
  List.map_append

theorem latin1_inj {v w : List UInt8} : latin1 v = latin1 w ↔ v = w := by
  constructor
  · intro h
    exact List.map_injective_iff.mpr (fun _ _ heq => ofNat_toNat_inj.mp heq) h
  · intro h
    rw [h]

/-- What is sent is split into what was put together. -/
theorem map_trim_splitOn (hne : cookies ≠ []) (hvis : ∀ c ∈ cookies, c.Visible) :
    ((latin1 (cookieHeader cookies)).splitOn ';').map trim =
      cookies.map (fun c => latin1 c.pair) := by
  have hsep : latin1 [semicolon, 32] = [';', ' '] := by decide
  rw [cookieHeader, latin1_intercalate, hsep, List.map_map]
  refine map_strip_splitOn (by decide) (by decide) (by rwa [ne_eq, List.map_eq_nil_iff]) ?_ ?_
  · intro piece hpiece
    rcases List.mem_map.mp hpiece with ⟨c, _, rfl⟩
    -- Neither the name nor the value has a semicolon.
    have hnot : semicolon ∉ c.pair := by
      intro hmem
      rcases List.mem_append.mp hmem with hn | hv
      · exact (c.name_plain _ hn).1 rfl
      · rcases List.mem_cons.mp hv with heq | hv
        · exact absurd heq (by decide)
        · exact c.value_plain _ hv rfl
    exact fun hmem => hnot (mem_latin1.mp hmem)
  · intro piece hpiece
    rcases List.mem_map.mp hpiece with ⟨c, hc, rfl⟩
    have hbare : Bare isBlank c.pair := c.name_bare.join c.value_bare (by decide)
    refine hbare.map (fun b hb => isWhitespace_of_visible ?_)
    exact List.all_eq_true.mp (hvis c hc) b hb

/-- Among cookies that are visible the first of a name is found. -/
theorem cookieIn_cookieHeader (hne : cookies ≠ []) (hvis : ∀ c ∈ cookies, c.Visible)
    (hname : '=' ∉ name.toList) :
    cookieIn name (latin1 (cookieHeader cookies)) =
      (cookies.find? (fun c => latin1 c.name = name.toList)).map (fun c => latin1 c.value) := by
  have hparts : cookieIn name (latin1 (cookieHeader cookies)) =
      (((latin1 (cookieHeader cookies)).splitOn ';').map trim).findSome?
        (fun part => part.dropPrefix? (name.toList ++ ['='])) := by
    rw [List.findSome?_map]
    rfl
  rw [hparts, map_trim_splitOn hne hvis, List.findSome?_map]
  clear hparts hne hvis
  induction cookies with
  | nil => rfl
  | cons c cookies ih =>
      have hequals : '=' ∉ latin1 c.name := by
        intro hmem
        exact (c.name_plain equalsSign (mem_latin1.mp hmem)).2 rfl
      have hpair := dropPrefix_pair (v := latin1 c.value) hequals hname
      rw [← latin1_pair] at hpair
      rw [List.findSome?_cons, Function.comp_apply, hpair, List.find?_cons]
      by_cases h : latin1 c.name = name.toList
      · simp only [h, if_true, decide_true, Option.map_some]
      · simp only [h, if_false, decide_false, ih]

/-- The proxy reads the first cookie of the name, if everything that is sent
    is visible ASCII, and otherwise nothing. -/
theorem getCookieValue_cookieHeader (name : String)
    (hget : headers.get "cookie" = some (cookieHeader cookies)) (hne : cookies ≠ [])
    (hname : '=' ∉ name.toList) :
    ((∀ c ∈ cookies, c.Visible) → getCookieValue headers name =
      (cookies.find? (fun c => latin1 c.name = name.toList)).map
        (fun c => String.ofList (latin1 c.value))) ∧
    (¬ (∀ c ∈ cookies, c.Visible) → getCookieValue headers name = none) := by
  constructor
  · intro hvis
    rw [getCookieValue_of_toStr hget (all_cookieHeader_iff.mpr hvis),
      cookieIn_cookieHeader hne hvis hname, Option.map_map]
    rfl
  · intro hnot
    rw [← all_cookieHeader_iff] at hnot
    simp only [getCookieValue, hget, Option.bind_some, toStr, if_neg hnot]

end Proxy

end Rathole
