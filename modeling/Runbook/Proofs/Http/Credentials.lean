import Runbook.Http.Step
import Runbook.Proofs.Fault

namespace Runbook

theorem Auth.orElse_of_ne {a b : String} (h : a ≠ "") : Auth.orElse a b = a := by
  rw [orElse, if_neg (by simpa using h)]

theorem Auth.empty_orElse (b : String) : Auth.orElse "" b = b := rfl

theorem Run.auth_ofTest (t : Test) (s : Suite) (parent : Option Test) :
    (ofTest t s parent).auth = s.auth.override t.auth := by cases parent <;> rfl

namespace Http

inductive Scheme where
  | anonymous
  | bearer (token : String)
  | basic (user password : String)
deriving DecidableEq, Repr

/-- What credentials are used for: a token if there is one, else a user with a password. -/
def Scheme.of (a : Auth) : Scheme :=
  if a.token = "" then if a.username = "" then .anonymous else .basic a.username a.password
  else .bearer a.token

def basicText (user password : String) : String :=
  "Basic " ++ String.ofList (Text.Base64.encode (Text.Utf8.encode (user ++ ":" ++ password).toList))

def Scheme.header? : Scheme → Option String
  | .anonymous => none
  | .bearer token => some ("Bearer " ++ token)
  | .basic user password => some (basicText user password)

def Request.authorization? (q : Request) : Option String := q.headers.get? "Authorization"

namespace Headers

variable {hs hs' : Headers} {h : Header} {name other : String}

theorem sameName_iff {a b : String} :
    sameName a b = true ↔ a.toList.map Char.toLower = b.toList.map Char.toLower := beq_iff_eq

theorem sameName_self (a : String) : sameName a a = true := sameName_iff.2 rfl

theorem sameName_of_right {a b : String} (h : sameName a b = true) (c : String) :
    sameName a c = sameName b c := by
  rw [sameName, sameName, sameName_iff.1 h]

theorem get?_congr (h : hs.filter (fun h => sameName h.name name) =
    hs'.filter fun h => sameName h.name name) : hs.get? name = hs'.get? name := by
  rw [get?, get?, h]

theorem get?_eq_none_iff :
    hs.get? name = none ↔ hs.filter (fun h => sameName h.name name) = [] := by
  rw [get?]
  split <;> simp_all

theorem get?_cons_of_other (h : sameName other name = false) (value : String) :
    get? (⟨other, value⟩ :: hs) name = hs.get? name :=
  get?_congr (List.filter_cons_of_neg (by simp [h]))

theorem get?_append_of_other (h : sameName other name = false) (value : String) :
    get? (hs ++ [⟨other, value⟩]) name = hs.get? name :=
  get?_congr (by simp [List.filter_append, h])

theorem get?_setDefault_of_other (h : sameName other name = false) (value : String) :
    (hs.setDefault other value).get? name = hs.get? name := by
  rw [setDefault]
  split
  · rfl
  · exact get?_append_of_other h value

theorem get?_erase_self (hs : Headers) (name : String) : (hs.erase name).get? name = none := by
  rw [get?_eq_none_iff, erase, List.filter_filter]
  simp

theorem get?_erase_of_other (h : sameName other name = false) :
    (hs.erase other).get? name = hs.get? name := by
  refine get?_congr ?_
  rw [erase, List.filter_filter]
  refine List.filter_congr fun x _ => ?_
  cases hx : sameName x.name other with
  | true => rw [sameName_of_right hx, h]; rfl
  | false => simp

theorem get?_set (hs : Headers) (name value : String) :
    (hs.set name value).get? name = some value := by
  have hfound : (hs.set name value).filter (fun h => sameName h.name name) = [⟨name, value⟩] := by
    induction hs with
    | nil => simp [set, sameName_self]
    | cons h hs ih =>
      rw [set]
      split
      · have hrest := get?_eq_none_iff.1 (get?_erase_self hs name)
        rw [List.filter_cons, if_pos (sameName_self name), hrest]
      · rename_i hne
        rw [List.filter_cons, if_neg hne, ih]
  rw [get?, hfound]
  rfl

end Headers

section Schemes

theorem Scheme.of_token {a : Auth} (h : a.token ≠ "") : of a = .bearer a.token := if_neg h

theorem Scheme.of_user {a : Auth} (htoken : a.token = "") (huser : a.username ≠ "") :
    of a = .basic a.username a.password := by
  rw [of, if_pos htoken, if_neg huser]

theorem Scheme.of_neither {a : Auth} (htoken : a.token = "") (huser : a.username = "") :
    of a = .anonymous := by
  rw [of, if_pos htoken, if_pos huser]

theorem basic_eq_some {a : Auth} (htoken : a.token = "") (huser : a.username ≠ "") :
    basic a = some (a.username, a.password) := by
  simp [basic, htoken, huser]

theorem basic_eq_none {a : Auth} (h : a.token ≠ "" ∨ a.username = "") : basic a = none := by
  rcases h with h | h <;> simp [basic, h]

theorem basic_of_scheme {a : Auth} {user password : String}
    (h : Scheme.of a = .basic user password) : basic a = some (user, password) ∧ user ≠ "" := by
  by_cases htoken : a.token = ""
  · by_cases huser : a.username = ""
    · rw [Scheme.of_neither htoken huser] at h
      cases h
    · rw [Scheme.of_user htoken huser] at h
      cases h
      exact ⟨basic_eq_some htoken huser, huser⟩
  · rw [Scheme.of_token htoken] at h
    cases h

end Schemes

namespace Request

theorem get?_describe (method : String) (hs : Headers) (content : Content) :
    (describe method hs content).get? "Authorization" = hs.get? "Authorization" := by
  rw [describe]
  split
  · dsimp only
    rw [Headers.get?_setDefault_of_other (by decide), Headers.get?_setDefault_of_other (by decide)]
  · split
    · exact Headers.get?_cons_of_other (by decide) _
    · rfl

theorem headers_make {base : Url} {method text : String} {hs : Headers} {p : Params} {q : Request}
    (h : make base method text hs p = .ok q) :
    ∃ content, q.headers = describe method hs content := by
  unfold make at h
  obtain ⟨u, -, h⟩ := bind_eq_ok h
  dsimp only at h
  split at h
  · cases h
  obtain ⟨u', -, h⟩ := bind_eq_ok h
  obtain ⟨content, -, h⟩ := bind_eq_ok h
  split at h
  · obtain ⟨-, -, h⟩ := bind_eq_ok h
    cases h
    exact ⟨content, rfl⟩
  · cases h
    exact ⟨content, rfl⟩

theorem authorization?_withBasic (q : Request) (user password : String) :
    (q.withBasic user password).authorization? = some (basicText user password) :=
  Headers.get?_set _ _ _

end Request

variable {τ : Type} {c : Client τ} {r : Run} {q q' : Request} {place : String}

section Opening

theorem exists_headers (h : prepare c r = .ok (place, q)) : ∃ hs, headersOf r = .ok hs ∧
    q.authorization? = hs.get? "Authorization" := by
  obtain ⟨hs, hheaders, h⟩ := bind_eq_ok h
  obtain ⟨v, -, h⟩ := bind_eq_ok h
  unfold requestOf at h
  split at h
  · obtain ⟨q', hmake, heq⟩ := map_eq_ok_iff.1 h
    cases heq
    obtain ⟨content, hq⟩ := Request.headers_make hmake
    exact ⟨hs, hheaders, by rw [Request.authorization?, hq, Request.get?_describe]⟩
  · cases h

theorem get?_headersOf {hs : Headers} (h : headersOf r = .ok hs)
    (hfree : ∀ k ∈ r.params.header.keys, Headers.sameName k "Authorization" = false) :
    hs.get? "Authorization" =
      if r.auth.token = "" then none else some ("Bearer " ++ r.auth.token) := by
  obtain ⟨own, hown, h⟩ := bind_eq_ok h
  cases h
  have hkeys : ∀ e ∈ own.entries, Headers.sameName e.1 "Authorization" = false := by
    intro e he
    refine hfree e.1 ?_
    rw [← Dict.keys_mapValuesM hown]
    exact List.mem_map_of_mem he
  -- the headers of the step itself may take any place, but none of them is looked for
  have hfilter := Dict.filter_putAll (p := (Headers.sameName · "Authorization")) hkeys
    (tokenHeader r.auth)
  have hfound : (((tokenHeader r.auth).combine own).entries.map fun e => Header.mk e.1 e.2).filter
      (fun h => Headers.sameName h.name "Authorization") =
        ((tokenHeader r.auth).entries.map fun e => Header.mk e.1 e.2).filter
          fun h => Headers.sameName h.name "Authorization" := by
    rw [List.filter_map, List.filter_map]
    exact congrArg _ hfilter
  rw [Headers.get?_congr hfound, tokenHeader]
  by_cases htoken : r.auth.token = ""
  · rw [if_pos (beq_iff_eq.2 htoken), if_pos htoken]
    rfl
  · rw [if_neg (by simpa using htoken), if_neg htoken]
    exact Headers.get?_set [] "Authorization" _

def opening (q : Request) (basic : Option (String × String)) (cs : Cookies) : Request :=
  let (user, password) := basic.getD q.url.credentials
  Client.withCookies cs (if user == "" && password == "" then q else q.withBasic user password)

theorem send_eq (c : Client τ) (q : Request) (basic : Option (String × String))
    (s : Client.State τ) :
    c.send q basic s = c.follow Client.redirectLimit (opening q basic s.cookies) s := rfl

theorem authorization?_withCookies (cs : Cookies) (q : Request) :
    (Client.withCookies cs q).authorization? = q.authorization? := by
  unfold Client.withCookies
  split
  · split
    · rfl
    · exact Headers.get?_append_of_other (by decide) _
  · rfl

/-- Whether nothing but its credentials says how a step is authenticated: neither a header of its
own nor the URL that it leads to. -/
def Unclaimed (r : Run) (q : Request) : Prop :=
  (∀ k ∈ r.params.header.keys, Headers.sameName k "Authorization" = false) ∧
    q.url.credentials = ("", "")

theorem authorization?_opening_basic {user : String} (huser : user ≠ "") (password : String)
    (q : Request) (cs : Cookies) :
    (opening q (some (user, password)) cs).authorization? = some (basicText user password) := by
  have hboth : ¬ (user == "" && password == "") = true := by simp [huser]
  rw [opening, Option.getD_some]
  dsimp only
  rw [if_neg hboth, authorization?_withCookies, Request.authorization?_withBasic]

/-- The first request is authenticated as the credentials of the step say, if nothing else does. -/
theorem authorization?_opening (h : prepare c r = .ok (place, q)) (hfree : Unclaimed r q)
    (cs : Cookies) :
    (opening q (basic r.auth) cs).authorization? = (Scheme.of r.auth).header? := by
  obtain ⟨hkeys, hurl⟩ := hfree
  obtain ⟨hs, hheaders, hq⟩ := exists_headers h
  have hplain (hnone : basic r.auth = none) :
      (opening q (basic r.auth) cs).authorization? =
        if r.auth.token = "" then none else some ("Bearer " ++ r.auth.token) := by
    rw [opening, hnone, Option.getD_none, hurl]
    exact (authorization?_withCookies cs q).trans (hq.trans (get?_headersOf hheaders hkeys))
  by_cases htoken : r.auth.token = ""
  · by_cases huser : r.auth.username = ""
    · rw [hplain (basic_eq_none (.inr huser)), if_pos htoken, Scheme.of_neither htoken huser]
      rfl
    · rw [basic_eq_some htoken huser, authorization?_opening_basic huser,
        Scheme.of_user htoken huser]
      rfl
  · rw [hplain (basic_eq_none (.inl htoken)), if_neg htoken, Scheme.of_token htoken]
    rfl

end Opening

section Redirecting

/-- One of the requests that come of a request when at most `n` redirections are followed. -/
inductive Leads (c : Client τ) : Nat → Request → Client.State τ → Request → Prop
  | first (n : Nat) (q : Request) (s : Client.State τ) : Leads c n q s q
  | redirected {n : Nat} {q next q' : Request} {s s' : Client.State τ}
      (hop : c.hop q s = (.inr next, s'))
      (rest : Leads c n (Client.withCookies s'.cookies next) s' q') : Leads c (n + 1) q s q'

theorem authorization?_redirect {a : Answer} {location : String} {next : Request}
    (h : Client.redirect q a location = .ok next) :
    next.authorization? = q.authorization? ∨ next.authorization? = none := by
  obtain ⟨u, -, h⟩ := bind_eq_ok h
  cases h
  have hkept (hs : Headers) (drop : Bool) : Headers.get? ((if drop then
      (hs.erase "Content-Length").erase "Transfer-Encoding" else hs).erase "Cookie")
        "Authorization" = hs.get? "Authorization" := by
    rw [Headers.get?_erase_of_other (by decide)]
    cases drop with
    | false => rfl
    | true =>
      rw [if_pos rfl, Headers.get?_erase_of_other (by decide),
        Headers.get?_erase_of_other (by decide)]
  rw [Request.authorization?, Client.redirectHeaders]
  dsimp only
  rw [hkept]
  split
  · exact .inl rfl
  · exact .inr (Headers.get?_erase_self _ _)

theorem hop_eq_inr {s s' : Client.State τ} {next : Request} (h : c.hop q s = (.inr next, s')) :
    ∃ a location, Client.redirect q a location = .ok next := by
  unfold Client.hop at h
  split at h
  · cases h
  · split at h
    · cases h
    · split at h
      · cases h
      · rename_i hredirect
        cases h
        exact ⟨_, _, hredirect⟩

theorem Leads.authorization? {n : Nat} {s : Client.State τ} (h : Leads c n q s q') :
    q'.authorization? = q.authorization? ∨ q'.authorization? = none := by
  induction h with
  | first n q s => exact .inl rfl
  | redirected hop rest ih =>
    -- credentials that a redirection has taken off do not come back with a later one
    obtain ⟨a, location, hredirect⟩ := hop_eq_inr hop
    rw [authorization?_withCookies] at ih
    rcases ih with hsame | hnone
    · rw [hsame]
      exact authorization?_redirect hredirect
    · exact .inr hnone

end Redirecting

/-- What a step is carried out with over HTTP: its first request is authenticated as its credentials
say, and those that follow redirections are so too or not at all. -/
theorem runner_authenticates (h : prepare c r = .ok (place, q)) (suite : Suite)
    (s : Client.State τ) : ∃ q₀,
    c.runner.run r suite s =
      (let (x, s) := c.follow Client.redirectLimit q₀ s
      (conclude r place x, s)) ∧
    (Unclaimed r q ∨ (∃ user password, Scheme.of r.auth = .basic user password) →
      q₀.authorization? = (Scheme.of r.auth).header?) ∧
    ∀ q', Leads c Client.redirectLimit q₀ s q' →
      q'.authorization? = q₀.authorization? ∨ q'.authorization? = none := by
  refine ⟨opening q (basic r.auth) s.cookies, ?_, ?_, fun q' => Leads.authorization?⟩
  · rw [Client.runner]
    dsimp only
    rw [h, ← send_eq]
  · rintro (hfree | ⟨user, password, hscheme⟩)
    · exact authorization?_opening h hfree s.cookies
    · obtain ⟨hbasic, huser⟩ := basic_of_scheme hscheme
      rw [hbasic, authorization?_opening_basic huser, hscheme]
      rfl

/-- A step with a token of its own is authenticated by it, and one with a user of its own as that
user, unless a token is inherited. A step with neither is authenticated as its suite is, with its
own password if it has one. The request that it begins with says so if nothing else speaks of it,
and in any case for a user; those that follow redirections say the same or nothing. -/
theorem ofTest_authenticated (c : Client τ) (t : Test) (s : Suite) (parent : Option Test) :
    (t.auth.token ≠ "" →
      Scheme.of (Run.ofTest t s parent).auth = .bearer t.auth.token) ∧
    (t.auth.token = "" → s.auth.token = "" → t.auth.username ≠ "" →
      Scheme.of (Run.ofTest t s parent).auth =
        .basic t.auth.username (Auth.orElse t.auth.password s.auth.password)) ∧
    (t.auth.token = "" → t.auth.username = "" →
      (t.auth.password = "" → (Run.ofTest t s parent).auth = s.auth) ∧
      (t.auth.password ≠ "" →
        (Run.ofTest t s parent).auth = { s.auth with password := t.auth.password })) ∧
    ∀ place q, prepare c (Run.ofTest t s parent) = .ok (place, q) → ∀ suite state, ∃ q₀,
      c.runner.run (Run.ofTest t s parent) suite state =
        (let (x, state) := c.follow Client.redirectLimit q₀ state
        (conclude (Run.ofTest t s parent) place x, state)) ∧
      (Unclaimed (Run.ofTest t s parent) q ∨
          (∃ user password, Scheme.of (Run.ofTest t s parent).auth = .basic user password) →
        q₀.authorization? = (Scheme.of (Run.ofTest t s parent).auth).header?) ∧
      ∀ q', Leads c Client.redirectLimit q₀ state q' →
        q'.authorization? = q₀.authorization? ∨ q'.authorization? = none := by
  have hauth : (Run.ofTest t s parent).auth = s.auth.override t.auth := Run.auth_ofTest t s parent
  refine ⟨fun htoken => ?_, fun htoken hsuite huser => ?_, fun htoken huser => ?_,
    fun place q h suite state => runner_authenticates h suite state⟩
  · have heffective : (Run.ofTest t s parent).auth.token = t.auth.token := by
      rw [hauth]
      exact Auth.orElse_of_ne htoken
    rw [Scheme.of_token (by rwa [heffective]), heffective]
  · have hnone : (Run.ofTest t s parent).auth.token = "" := by
      rw [hauth, Auth.override, htoken, hsuite]
      rfl
    have heffective : (Run.ofTest t s parent).auth.username = t.auth.username := by
      rw [hauth]
      exact Auth.orElse_of_ne huser
    rw [Scheme.of_user hnone (by rwa [heffective]), heffective, hauth]
    rfl
  · rw [hauth, Auth.override, htoken, huser, Auth.empty_orElse, Auth.empty_orElse]
    refine ⟨fun hpassword => ?_, fun hpassword => ?_⟩
    · rw [hpassword, Auth.empty_orElse]
    · rw [Auth.orElse_of_ne hpassword]

def guarded : Suite := ⟨"pets", [], .empty, false, ⟨"u", "p", ""⟩, "", none⟩

def visit (auth : Auth) : Test := { Test.empty with method := "get", path := "/a", auth }

def silent : Client Unit where
  base := ⟨"http", "", "svc", none, "/", none, none⟩
  transport := ⟨fun _ s => (.broken "", s)⟩
  today := ⟨2024, 1, 2, by decide⟩

def tokenVisit : Request where
  method := "GET"
  url := ⟨"http", "", "svc", none, "/a", none, none⟩
  headers := [⟨"Authorization", "Bearer own"⟩]
  body := ""

theorem ofTest_authenticated_guarded :
    (prepare silent (Run.ofTest (visit ⟨"", "", "own"⟩) guarded none) = .ok ("/a", tokenVisit) ∧
      Unclaimed (Run.ofTest (visit ⟨"", "", "own"⟩) guarded none) tokenVisit) ∧
    (∃ q₀, silent.runner.run (Run.ofTest (visit ⟨"", "", "own"⟩) guarded none) guarded ⟨[], ()⟩ =
        (let (x, s) := silent.follow Client.redirectLimit q₀ ⟨[], ()⟩
        (conclude (Run.ofTest (visit ⟨"", "", "own"⟩) guarded none) "/a" x, s)) ∧
      q₀.authorization? = some "Bearer own") ∧
    Scheme.of (Run.ofTest (visit ⟨"v", "", ""⟩) guarded none).auth = .basic "v" "p" ∧
    (Run.ofTest (visit ⟨"", "q", ""⟩) guarded none).auth = ⟨"u", "q", ""⟩ ∧
    (Run.ofTest (visit .none) guarded none).auth = guarded.auth := by
  have hprepare : prepare silent (Run.ofTest (visit ⟨"", "", "own"⟩) guarded none) =
      .ok ("/a", tokenVisit) := by rfl
  have hfree : Unclaimed (Run.ofTest (visit ⟨"", "", "own"⟩) guarded none) tokenVisit :=
    ⟨fun _ hk => absurd hk List.not_mem_nil, by decide +kernel⟩
  obtain ⟨hbearer, -, -, hsent⟩ := ofTest_authenticated silent (visit ⟨"", "", "own"⟩) guarded none
  obtain ⟨-, huser, -⟩ := ofTest_authenticated silent (visit ⟨"v", "", ""⟩) guarded none
  obtain ⟨-, -, hpassword, -⟩ := ofTest_authenticated silent (visit ⟨"", "q", ""⟩) guarded none
  obtain ⟨-, -, hnothing, -⟩ := ofTest_authenticated silent (visit .none) guarded none
  obtain ⟨q₀, hrun, hfirst, -⟩ := hsent _ _ hprepare guarded ⟨[], ()⟩
  refine ⟨⟨hprepare, hfree⟩, ⟨q₀, hrun, ?_⟩, huser rfl rfl (by decide),
    (hpassword rfl rfl).2 (by decide), (hnothing rfl rfl).1 rfl⟩
  rw [hfirst (.inl hfree), hbearer (by decide)]
  rfl

/-- A password alone takes the place of that of the suite, so the step is not authenticated as the
suite is; and a user alone is of no account where the suite has a token. -/
theorem ofTest_mixes_credentials :
    (¬ ∀ (t : Test) (s : Suite) (parent : Option Test), t.auth.token = "" → t.auth.username = "" →
      Scheme.of (Run.ofTest t s parent).auth = Scheme.of s.auth) ∧
    ¬ ∀ (t : Test) (s : Suite) (parent : Option Test), t.auth.token = "" → t.auth.username ≠ "" →
      ∃ password, Scheme.of (Run.ofTest t s parent).auth = .basic t.auth.username password := by
  refine ⟨fun h => ?_, fun h => ?_⟩
  · have hsame := h (visit ⟨"", "q", ""⟩) guarded none rfl rfl
    exact absurd hsame (by decide)
  · obtain ⟨password, hbasic⟩ :=
      h (visit ⟨"v", "q", ""⟩) { guarded with auth := ⟨"", "", "tok"⟩ } none rfl (by decide)
    have hbearer : Scheme.of (Run.ofTest (visit ⟨"v", "q", ""⟩)
        { guarded with auth := ⟨"", "", "tok"⟩ } none).auth = .bearer "tok" := by decide
    rw [hbearer] at hbasic
    cases hbasic

end Http

end Runbook
