import CaseRunner.Proofs.Session.Course
import CaseRunner.Proofs.Variables.Keys

/-!
# One login for the time of a token

Requests that do not carry credentials get a token, and the token is kept among the
variables for as long as it may be used. A course of calls for credentials is told here
with all that may happen between two calls: time passes, and other keys of the cache are
set and removed (`Login.Course`). What a single call comes to is one of seven things
(`Login.Served`); from this it follows that a call that fails is as good as none, and that
a token, once obtained, is what every later call gets, without a login, until the time is
up (`Login.logs_in_once`).

Two of the seven are crashes: of the transport that sends the login, and of the moment
until which the token may be used, if no clock can show that moment. They are no exceptions
to what is said of calls. A call that crashes stores nothing, like one that fails; in
particular a token is not kept whose time could not be told, though the login was sent and
answered.

The clock is part of the session, and all that is assumed of it is that it does not go
backwards.
-/

namespace CaseRunner.Login

/-! ## A call -/

/-- **A call for credentials**: the request that is to get them, what answers a login, and
the session before the call. The suite is part of the call, so that what answers one login
need not answer the next. -/
structure Call where
  /-- What the run is given. -/
  suite : Suite
  /-- The request. -/
  request : Request
  /-- The session before the call. -/
  before : Session

/-- The request with a token: one more header, behind the others. It is said by the list
and not by the setting of a header, so that one can see that no other header has changed.
-/
def withToken (a : Login) (token : String) (r : Request) : Request :=
  { r with headers := r.headers ++ [(a.header, a.credentials token)] }

/-- The token that a login at an address gives with what comes of its request. -/
def tokenOf (a : Login) (url : String) (r : Except (Stop RunError) RawReply) :
    Except (Stop RunError) String := do
  let raw ← r
  Stop.lift (a.tokenIn url raw.toReply)

/-- **A login fails** with what comes of its request: there is no answer, or one that
refuses, or one without a token. The three are kept apart here, while the code ends in an
error for each (`exists_tokenOf_error_iff`). -/
inductive Fails (a : Login) : Except (Stop RunError) RawReply → Prop
  | unanswered (e : RunError) : Fails a (.error (.error e))
  | refused {raw : RawReply} (status : 400 ≤ raw.statusCode) : Fails a (.ok raw)
  | missing {raw : RawReply} {e : RunError} (missing :
      JsonPath.findFirst raw.toReply.json a.tokenPath "auth:token_jsonpath" = .error e) :
      Fails a (.ok raw)

namespace Call

/-- The call's request carries credentials of its own, in whatever letter case. -/
def Own (a : Login) (c : Call) : Prop :=
  ∃ h ∈ c.request.headers, Headers.sameName h.1 a.header = true

/-- The token that is kept when the call is made. One whose time is up is none. -/
def kept? (c : Call) : Option String :=
  c.before.store.lookup c.before.now Session.tokenKey (some .cache)

/-- What comes of a login at an address. -/
def delivery (a : Login) (c : Call) (url : String) : Delivery :=
  c.suite.transport c.request.engine c.before.files c.before.sent (a.request url c.request)

/-- The session when the login has been answered. -/
def told (a : Login) (c : Call) (url : String) : Session :=
  Session.delivered c.suite none (a.request url c.request) c.before

/-- The moment until which a token may be used that the login gave. It is counted from when
the answer came and not from when the login was sent. -/
def limit (a : Login) (c : Call) (url : String) : Moment := (c.told a url).now + a.lifetime

/-- The session when it has come up until when the token may be used. -/
def limited (a : Login) (c : Call) (url : String) : Session :=
  (c.told a url).noting (.measured (.moment (c.limit a url)))

/-- The session when a token that the login gave is kept. -/
def holding (a : Login) (c : Call) (url token : String) : Session :=
  let s := c.limited a url
  { s with
    store.cache := s.store.cache.set Session.tokenKey token (some (c.limit a url)) s.now }

/-- What the call gives. -/
def answer (a : Login) (c : Call) : Except (Stop RunError) Request :=
  ((a.apply c.suite c.request).run c.before).1

/-- The session that the call leaves. -/
def after (a : Login) (c : Call) : Session := ((a.apply c.suite c.request).run c.before).2

/-- The request as the call leaves it. -/
def left (a : Login) (c : Call) : Request :=
  match c.answer a with
  | .ok r => r
  | .error _ => c.request

/-- **The call sends a login.** One call sends at most one, and no other request. -/
def SendsLogin (a : Login) (c : Call) : Prop :=
  ∃ login, (c.after a).sent = login :: c.before.sent

/-- **The call obtains a token**: it sends a login, and the request goes on with the
token. -/
structure Obtains (a : Login) (token : String) (c : Call) : Prop where
  sends : c.SendsLogin a
  given : c.answer a = .ok (a.withToken token c.request)

end Call

variable {a : Login} {c : Call} {token : String}

theorem own_iff : c.Own a ↔ (c.request.header? a.header).isSome = true := by
  unfold Request.header? Headers.get? Call.Own
  rw [Option.isSome_map, List.find?_isSome]

/-- A header of a new name comes behind the others. -/
theorem setHeader_of_not_own (h : ¬ c.Own a) (token : String) :
    c.request.setHeader a.header (a.credentials token) = a.withToken token c.request := by
  have stay : c.request.headers.filter (fun x => !Headers.sameName x.1 a.header)
      = c.request.headers := by
    refine List.filter_eq_self.mpr fun x hx => ?_
    simpa using fun same => h ⟨x, hx, same⟩
  unfold Request.setHeader Headers.set withToken
  rw [stay]

/-- From a request with a token one can tell the token, and so a later call that goes on
with the same header has the same token. -/
theorem withToken_inj {token' : String} {r : Request}
    (h : a.withToken token r = a.withToken token' r) : token = token' := by
  have headers := List.append_cancel_left (congrArg Request.headers h)
  have same : a.credentials token = a.credentials token' :=
    congrArg Prod.snd (List.cons.inj headers).1
  unfold credentials at same
  split at same
  · exact same
  · exact (String.append_right_inj _).mp same

/-- **What a call comes to**: what it gives, and the session that it leaves. The seven are
told apart by what was true before the call and by what came of the login, so for a given
call only one of them is possible. -/
inductive Served (a : Login) (c : Call) : Except (Stop RunError) Request → Session → Prop
  /-- The request is left alone. -/
  | own (own : c.Own a) : Served a c (.ok c.request) c.before
  /-- A token is kept. -/
  | kept {token : String} (own : ¬ c.Own a) (kept : c.kept? = some token) :
      Served a c (.ok (a.withToken token c.request)) c.before
  /-- There is no address to log in at. -/
  | nowhere {text : String} (own : ¬ c.Own a) (kept : c.kept? = none)
      (address : Request.address c.before.store a.url = .error text) :
      Served a c (.error (.error (.requestData ("auth:url: " ++ text)))) c.before
  /-- The login fails. -/
  | failed {url : String} {e : RunError} (own : ¬ c.Own a) (kept : c.kept? = none)
      (address : Request.address c.before.store a.url = .ok url)
      (fails : a.tokenOf url (c.delivery a url).result = .error (.error e)) :
      Served a c (.error (.error e)) (c.told a url)
  /-- The transport crashes. -/
  | broken {url : String} {q : Quantity} {unfit : q.fits = false} (own : ¬ c.Own a)
      (kept : c.kept? = none) (address : Request.address c.before.store a.url = .ok url)
      (crash : a.tokenOf url (c.delivery a url).result = .error (.crash q unfit)) :
      Served a c (.error (.crash q unfit)) ((c.told a url).noting (.measured q))
  /-- The login gives a token that may be used until a moment that no clock shows. -/
  | unlimited {url token : String} (own : ¬ c.Own a) (kept : c.kept? = none)
      (address : Request.address c.before.store a.url = .ok url)
      (gives : a.tokenOf url (c.delivery a url).result = .ok token)
      (unfit : (Quantity.moment (c.limit a url)).fits = false) :
      Served a c (.error (.crash _ unfit)) (c.limited a url)
  /-- The login gives a token, which is kept. -/
  | fetched {url token : String} (own : ¬ c.Own a) (kept : c.kept? = none)
      (address : Request.address c.before.store a.url = .ok url)
      (gives : a.tokenOf url (c.delivery a url).result = .ok token)
      (fits : (Quantity.moment (c.limit a url)).fits = true) :
      Served a c (.ok (a.withToken token c.request)) (c.holding a url token)

/-- **A login that gives no token has failed**, and one that has failed gives none. A crash
is neither. -/
theorem exists_tokenOf_error_iff {url : String} {r : Except (Stop RunError) RawReply} :
    (∃ e, a.tokenOf url r = .error (.error e)) ↔ a.Fails r := by
  unfold tokenOf
  constructor
  · rintro ⟨e, he⟩
    rcases bind_eq_error_iff.mp he with rfl | ⟨raw, rfl, none⟩
    · exact .unanswered e
    have none := Stop.lift_eq_error_error_iff.mp none
    unfold tokenIn at none
    split at none
    next status => exact .refused status
    next =>
      rcases bind_eq_error_iff.mp none with missing | ⟨found, -, given⟩
      · exact .missing missing
      · cases given
  · intro h
    have answered {raw : RawReply} (refuses : ∃ e, a.tokenIn url raw.toReply = .error e) :
        ∃ e, (Except.ok raw >>= fun raw => Stop.lift (a.tokenIn url raw.toReply))
          = .error (.error e) :=
      refuses.imp fun e he => Stop.lift_eq_error_error_iff.mpr he
    cases h with
    | unanswered e => exact ⟨e, rfl⟩
    | refused status => exact answered ⟨_, if_pos status⟩
    | @missing raw e missing =>
      refine answered ?_
      by_cases status : 400 ≤ raw.statusCode
      · exact ⟨_, if_pos status⟩
      · exact ⟨e, (if_neg status).trans (bind_eq_error_iff.mpr (.inl missing))⟩

/-- **What keeping a token yields**: it is kept if there is room for the moment until which
it may be used. -/
theorem yields_of_keepToken {s t : Session} {r : Except (Stop RunError) Unit}
    (h : Yields (a.keepToken token) s r t) :
    let limit : Moment := s.now + (a.lifetime : Int)
    let u := s.noting (.measured (.moment limit))
    ((Quantity.moment limit).fits = true ∧ r = .ok ()
        ∧ t = { u with
          store.cache := s.store.cache.set Session.tokenKey token (some limit) s.now })
      ∨ ∃ unfit, r = .error (.crash (.moment limit) unfit) ∧ t = u := by
  intro limit u
  have h := Session.yields_record_bind_iff.mp (yields_get_bind_iff.mp h)
  by_cases fits : (Quantity.moment limit).fits = true
  · rw [Store.putFor_of_fits fits] at h
    change Yields (Session.storing (Store.put s.now Session.tokenKey token .cache _)) u r t at h
    obtain ⟨r₀, p, hp, rfl, rfl⟩ := Session.Yields.of_storing h
    obtain ⟨rfl, rfl⟩ := yields_modify_iff.mp hp
    exact .inl ⟨fits, rfl, rfl⟩
  · have unfit := Bool.eq_false_iff.mpr fits
    rw [Store.putFor_of_unfit unfit] at h
    obtain ⟨rfl, rfl⟩ := yields_mk_pure_iff.mp h
    exact .inr ⟨unfit, rfl, rfl⟩

/-- What comes of a reply to the login. -/
theorem served_of_reply {url : String} {raw : RawReply} (own : ¬ c.Own a)
    (kept : c.kept? = none) (address : Request.address c.before.store a.url = .ok url)
    (answered : (c.delivery a url).result = .ok raw) {t : Session}
    {r : Except (Stop RunError) String}
    (h : Yields (Session.result (a.tokenIn url raw.toReply) >>= fun token =>
      a.keepToken token >>= fun _ => pure token) (c.told a url) r t) :
    Served a c (r.map (a.withToken · c.request)) t := by
  have tokenOf_eq : a.tokenOf url (c.delivery a url).result
      = Stop.lift (a.tokenIn url raw.toReply) := by
    rw [answered]
    rfl
  cases token? : a.tokenIn url raw.toReply with
  | error e =>
    rw [token?] at h tokenOf_eq
    obtain ⟨rfl, rfl⟩ := yields_mk_pure_iff.mp h
    exact .failed own kept address tokenOf_eq
  | ok token =>
    rw [token?] at h tokenOf_eq
    change Yields (a.keepToken token >>= fun _ => pure token) (c.told a url) r t at h
    rcases yields_bind_iff.mp h with ⟨_, v, hkeep, hend⟩ | ⟨stop, hkeep, rfl⟩
    · obtain ⟨rfl, rfl⟩ := yields_pure_iff.mp hend
      obtain ⟨fits, -, rfl⟩ | ⟨_, hcrash, -⟩ := yields_of_keepToken hkeep
      · exact .fetched own kept address tokenOf_eq fits
      · cases hcrash
    · obtain ⟨-, hok, -⟩ | ⟨unfit, hcrash, rfl⟩ := yields_of_keepToken hkeep
      · cases hok
      · cases hcrash
        exact .unlimited own kept address tokenOf_eq unfit

/-- What comes of a login, and the request with the token. -/
theorem served_of_fetchToken (own : ¬ c.Own a) (kept : c.kept? = none) {t : Session}
    {r : Except (Stop RunError) String}
    (h : Yields (a.fetchToken c.suite c.request) c.before r t) :
    Served a c (r.map (a.withToken · c.request)) t := by
  have h := yields_get_bind_iff.mp h
  cases address : Request.address c.before.store a.url with
  | error text =>
    rw [address] at h
    rcases yields_bind_iff.mp h with ⟨_, _, hurl, -⟩ | ⟨stop, hurl, rfl⟩
    · cases (yields_mk_pure_iff.mp hurl).1
    · obtain ⟨hstop, rfl⟩ := yields_mk_pure_iff.mp hurl
      cases hstop
      exact .nowhere own kept address
  | ok url =>
    rw [address] at h
    rcases yields_bind_iff.mp h with ⟨_, _, hurl, hlogin⟩ | ⟨stop, hurl, rfl⟩
    swap
    · cases (yields_mk_pure_iff.mp hurl).1
    obtain ⟨hurl, rfl⟩ := yields_mk_pure_iff.mp hurl
    cases hurl
    rcases yields_bind_iff.mp hlogin with ⟨raw, u, hsend, hreply⟩ | ⟨stop, hsend, rfl⟩
    · obtain ⟨answered, ⟨_, _, hcrash, -⟩ | ⟨-, rfl⟩⟩ := Session.Yields.of_send hsend
      · cases hcrash
      · exact served_of_reply own kept address answered.symm hreply
    · obtain ⟨unanswered, crash⟩ := Session.Yields.of_send hsend
      have tokenOf_eq : a.tokenOf url (c.delivery a url).result = .error stop :=
        congrArg (a.tokenOf url) unanswered.symm
      obtain ⟨q, unfit, hcrash, rfl⟩ | ⟨survived, rfl⟩ := crash
      · cases hcrash
        exact .broken own kept address tokenOf_eq
      · cases stop with
        | error e => exact .failed own kept address tokenOf_eq
        | crash q unfit => exact absurd (Stop.crashes_crash unfit) survived

/-- **Every call comes to one of the seven.** Here the code is taken apart; all that
follows uses the seven and not the code. -/
theorem served (a : Login) (c : Call) : Served a c (c.answer a) (c.after a) := by
  have h : Yields (a.apply c.suite c.request) c.before (c.answer a) (c.after a) :=
    yields_run _ _
  generalize c.answer a = x at h ⊢
  generalize c.after a = t at h ⊢
  unfold apply at h
  by_cases own : c.Own a
  · rw [if_pos (own_iff.mp own)] at h
    obtain ⟨rfl, rfl⟩ := yields_pure_iff.mp h
    exact .own own
  rw [if_neg (mt own_iff.mpr own)] at h
  have h := yields_get_bind_iff.mp h
  simp only [setHeader_of_not_own own] at h
  rw [show c.before.store.lookupIn c.before.now Session.tokenKey .cache = c.kept? from rfl] at h
  cases kept : c.kept? with
  | some token =>
    rw [kept] at h
    obtain ⟨rfl, rfl⟩ := yields_pure_iff.mp h
    exact .kept own kept
  | none =>
    rw [kept] at h
    rcases yields_bind_iff.mp h with ⟨token, u, fetched, rest⟩ | ⟨stop, stopped, rfl⟩
    · obtain ⟨rfl, rfl⟩ := yields_pure_iff.mp rest
      exact served_of_fetchToken own kept fetched
    · exact served_of_fetchToken own kept stopped

/-! ## A course of calls -/

/-- **What may happen between two calls**: nothing is written or removed under the key of
the token. The key is an ordinary one of the cache, and a case that sets it puts something
else in the place of the token. -/
inductive Meanwhile (s : Session) : Session → Prop
  /-- Time passes, and whatever is not in the cache may change. -/
  | aside {t : Session} (cache : t.store.cache = s.store.cache) (later : s.now ≤ t.now) :
      Meanwhile s t
  /-- Another key is set. -/
  | set {key : String} (other : key ≠ Session.tokenKey) (value : String)
      (expiry : Option Moment) :
      Meanwhile s { s with store.cache := s.store.cache.set key value expiry s.now }
  /-- Another key is removed. -/
  | erased {key : String} (other : key ≠ Session.tokenKey) :
      Meanwhile s { s with store.cache := s.store.cache.erase key }

/-- **A course of calls** that begins in a session, with whatever else happens meanwhile.
Each call begins in a session that has come from the one that the call before has left. -/
inductive Course (a : Login) : Session → List Call → Prop
  | nil (s : Session) : Course a s []
  | cons {s : Session} {c : Call} {calls : List Call}
      (meanwhile : Relation.ReflTransGen Meanwhile s c.before)
      (further : Course a (c.after a) calls) : Course a s (c :: calls)

/-- **A token is held** in a session until a moment. It is said for all moments from now on
at once, so that nothing has to be shown again when time passes. -/
def Holds (token : String) (limit : Moment) (s : Session) : Prop :=
  ∀ m, s.now ≤ m → m < limit → s.store.cache.get? Session.tokenKey m = some token

section Course

variable {s t : Session} {limit : Moment}

theorem Meanwhile.later (h : Meanwhile s t) : s.now ≤ t.now := by
  cases h with
  | aside _ later => exact later
  | set => exact Int.le_refl _
  | erased => exact Int.le_refl _

theorem Meanwhile.sound (h : Meanwhile s t) (sound : s.store.cache.Sound) :
    t.store.cache.Sound := by
  cases h with
  | aside cache => exact cache ▸ sound
  | set => exact sound.set _ _ _ _
  | erased => exact sound.erase _

/-- **What happens meanwhile keeps a token.** For this the cache must not have a key twice:
setting another key drops what has expired, and could bring out an entry behind it. -/
theorem Meanwhile.holds (h : Meanwhile s t) (sound : s.store.cache.Sound)
    (held : Holds token limit s) : Holds token limit t := by
  intro m hm hlimit
  have before := held m (Int.le_trans h.later hm) hlimit
  cases h with
  | aside cache => rw [cache, before]
  | set other => rw [← before]; exact Cache.get?_set_of_ne sound other.symm hm
  | erased other => rw [← before]; exact Cache.get?_erase_of_ne _ other.symm m

theorem sound_of_meanwhile (h : Relation.ReflTransGen Meanwhile s t)
    (sound : s.store.cache.Sound) : t.store.cache.Sound := by
  induction h with
  | refl => exact sound
  | tail _ step ih => exact step.sound ih

theorem holds_of_meanwhile (h : Relation.ReflTransGen Meanwhile s t)
    (sound : s.store.cache.Sound) (held : Holds token limit s) : Holds token limit t := by
  induction h with
  | refl => exact held
  | tail before step ih => exact step.holds (sound_of_meanwhile before sound) ih

end Course

/-! ## What a call does to the session -/

namespace Served

variable {x : Except (Stop RunError) Request} {t : Session}

theorem sound (h : Served a c x t) (sound : c.before.store.cache.Sound) :
    t.store.cache.Sound := by
  cases h with
  | own | kept | nowhere | failed | broken | unlimited => exact sound
  | fetched => exact sound.set _ _ _ _

theorem later (h : Served a c x t) : c.before.now ≤ t.now := by
  cases h with
  | own | kept | nowhere => exact Int.le_refl _
  | failed | broken | unlimited | fetched =>
    exact Int.le_add_of_nonneg_right (Int.natCast_nonneg _)

/-- **A call that fails is as good as none**: some time has passed. So in a course the
calls that fail can be taken for things that happen between the others. -/
theorem meanwhile_of_error {stop : Stop RunError} (h : Served a c (.error stop) t) :
    t.store = c.before.store ∧ Meanwhile c.before t := by
  have later := h.later
  cases h with
  | nowhere | failed | broken | unlimited => exact ⟨rfl, .aside rfl later⟩

/-- What a call comes to when the login gives a token, and there is room for the moment until
which it may be used. -/
theorem of_fits (h : Served a c x t) {url : String} (own : ¬ c.Own a) (kept : c.kept? = none)
    (address : Request.address c.before.store a.url = .ok url)
    (gives : a.tokenOf url (c.delivery a url).result = .ok token)
    (fits : (Quantity.moment (c.limit a url)).fits = true) :
    x = .ok (a.withToken token c.request) ∧ t = c.holding a url token := by
  cases h with
  | own h => exact absurd h own
  | kept _ h => exact nomatch h.symm.trans kept
  | nowhere _ _ h => exact nomatch h.symm.trans address
  | failed _ _ h none | broken _ _ h none =>
    obtain rfl := Except.ok.inj (h.symm.trans address)
    exact nomatch none.symm.trans gives
  | unlimited _ _ h _ unfit =>
    obtain rfl := Except.ok.inj (h.symm.trans address)
    exact nomatch unfit.symm.trans fits
  | fetched _ _ h gives' =>
    obtain rfl := Except.ok.inj (h.symm.trans address)
    obtain rfl := Except.ok.inj (gives'.symm.trans gives)
    exact ⟨rfl, rfl⟩

end Served

/-- **A call is spared a login** by a token: it leaves the session alone, and its request
goes on with the token, unless it has credentials of its own. -/
structure Call.Spared (a : Login) (token : String) (c : Call) : Prop where
  session : c.after a = c.before
  own : c.Own a → c.answer a = .ok c.request
  token : ¬ c.Own a → c.answer a = .ok (a.withToken token c.request)

/-- **While a token is held, no call sends a login.** Of the seven things that a call may
come to, only two are possible then. -/
theorem spared_of_holds {limit : Moment} (held : Holds token limit c.before)
    (early : c.before.now < limit) : c.Spared a token := by
  have kept : c.kept? = some token := held _ (Int.le_refl _) early
  have hserved := served a c
  generalize hx : c.answer a = x at hserved
  generalize ht : c.after a = t at hserved
  cases hserved with
  | own own => exact ⟨ht, fun _ => hx, fun h => absurd own h⟩
  | kept own kept' =>
    obtain rfl := Option.some.inj (kept.symm.trans kept')
    exact ⟨ht, fun h => absurd h own, fun _ => hx⟩
  | nowhere _ none | failed _ none | broken _ none | unlimited _ none | fetched _ none =>
    exact nomatch kept.symm.trans none

/-- **When a call obtains a token**: there is none for it, the login gives it, and there is
room for the moment until which it may be used. The last condition fails only for a
lifetime that no token has, but one can be written down. -/
theorem obtains_iff : c.Obtains a token ↔ ¬ c.Own a ∧ c.kept? = none
    ∧ ∃ url, Request.address c.before.store a.url = .ok url
      ∧ a.tokenOf url (c.delivery a url).result = .ok token
      ∧ (Quantity.moment (c.limit a url)).fits = true := by
  have hserved := served a c
  constructor
  · rintro ⟨⟨login, sends⟩, given⟩
    generalize c.answer a = x at hserved given
    generalize c.after a = t at hserved sends
    cases hserved with
    | own | kept | nowhere => exact absurd sends (List.cons_ne_self _ _).symm
    | failed | broken | unlimited => cases given
    | fetched own kept address gives fits =>
      obtain rfl := withToken_inj (Except.ok.inj given)
      exact ⟨own, kept, _, address, gives, fits⟩
  · rintro ⟨own, kept, url, address, gives, fits⟩
    obtain ⟨given, after⟩ := hserved.of_fits own kept address gives fits
    exact ⟨⟨_, congrArg Session.sent after⟩, given⟩

/-- The session that a call leaves which has obtained a token. -/
theorem Call.Obtains.after (h : c.Obtains a token) :
    ∃ url, c.after a = c.holding a url token := by
  obtain ⟨own, kept, url, address, gives, fits⟩ := obtains_iff.mp h
  exact ⟨url, ((served a c).of_fits own kept address gives fits).2⟩

/-- **A token that is obtained is held** for its time, from the moment on at which the
answer came. -/
theorem Call.Obtains.holds (h : c.Obtains a token) :
    Holds token ((c.after a).now + (a.lifetime : Int)) (c.after a) := by
  obtain ⟨url, after⟩ := h.after
  rw [after]
  intro m _ early
  refine (Cache.get?_set_self_of_expiry ..).trans (if_neg ?_)
  exact Int.not_le.mpr early

/-! ## What holds of courses -/

/-- **What holds of every call**, whatever comes of a login. These facts need no course:
they are about one call, and they do not depend on what was done before it. -/
structure Call.Fair (a : Login) (c : Call) : Prop where
  /-- A request with credentials of its own is left alone. -/
  own : c.Own a → c.answer a = .ok c.request ∧ c.after a = c.before
  /-- A request without gets a header with a token, behind all others. -/
  added : ¬ c.Own a → ∀ r, c.answer a = .ok r → ∃ token, r = a.withToken token c.request
  /-- If there is no token, the call fails with the login. -/
  failed : ¬ c.Own a → c.kept? = none → ∀ url, Request.address c.before.store a.url = .ok url →
    ((∃ e, c.answer a = .error (.error e)) ↔ a.Fails (c.delivery a url).result)
  /-- A call that fails stores nothing, leaves its request, and is as good as none; and so
  does one that crashes. -/
  fruitless : ∀ stop, c.answer a = .error stop →
    (c.after a).store = c.before.store ∧ c.left a = c.request ∧ Meanwhile c.before (c.after a)

/-- **Every call is fair.** A case for each of the seven things that it may come to. -/
theorem fair (a : Login) (c : Call) : c.Fair a := by
  have hserved := served a c
  generalize hx : c.answer a = x at hserved
  generalize ht : c.after a = t at hserved
  refine ⟨fun own => ?_, fun own r hr => ?_, fun own kept url address => ?_, fun stop he => ?_⟩
  · cases hserved with
    | own => exact ⟨hx, ht⟩
    | kept h | nowhere h | failed h | broken h | unlimited h | fetched h => exact absurd own h
  · rw [hr] at hx
    cases hserved with
    | own h => exact absurd h own
    | nowhere | failed | broken | unlimited => cases hx
    | kept | fetched => exact ⟨_, Except.ok.inj hx⟩
  · refine Iff.trans ?_
      (exists_tokenOf_error_iff : (∃ e, a.tokenOf url _ = .error (.error e)) ↔ _)
    cases hserved with
    | own h => exact absurd h own
    | kept _ h => exact nomatch h.symm.trans kept
    | nowhere _ _ h => exact nomatch h.symm.trans address
    | failed _ _ h fails =>
      obtain rfl := Except.ok.inj (h.symm.trans address)
      exact ⟨fun _ => ⟨_, fails⟩, fun _ => ⟨_, hx⟩⟩
    | broken _ _ h crash =>
      obtain rfl := Except.ok.inj (h.symm.trans address)
      rw [hx, crash]
      simp
    | unlimited _ _ h gives | fetched _ _ h gives =>
      obtain rfl := Except.ok.inj (h.symm.trans address)
      rw [hx, gives]
      simp
  · -- a crash is here one of the ways not to have an answer
    have left : c.left a = c.request := by
      unfold Call.left
      rw [he]
    rw [he] at hx
    subst hx
    obtain ⟨store, meanwhile⟩ := hserved.meanwhile_of_error
    exact ⟨ht ▸ store, left, ht ▸ meanwhile⟩

section Course

variable {s : Session} {calls : List Call} {limit : Moment}

/-- **A token that is held when a course begins spares its calls a login** until its time
is up: by induction on the course, since a call that is spared leaves the session alone,
and one that is later leaves nothing to be held. -/
theorem Course.spared (h : Course a s calls) (sound : s.store.cache.Sound)
    (held : Holds token limit s) : ∀ c ∈ calls, c.before.now < limit → c.Spared a token := by
  induction h with
  | nil => exact List.forall_mem_nil _
  | @cons s c calls meanwhile _ ih =>
    have held := holds_of_meanwhile meanwhile sound held
    have sound := sound_of_meanwhile meanwhile sound
    have after : Holds token limit (c.after a) := by
      by_cases early : c.before.now < limit
      · rw [(spared_of_holds held early).session]
        exact held
      · intro m hm hlimit
        exact absurd (Int.lt_of_le_of_lt (Int.le_trans (served a c).later hm) hlimit) early
    exact List.forall_mem_cons.mpr
      ⟨spared_of_holds held, ih ((served a c).sound sound) after⟩

/-- **One login for the time of a token.** In a course of calls by one login, with whatever
requests and answers, and with whatever happens meanwhile to other keys: every call does
what `Call.Fair` says, and after a call that has obtained a token no later call sends a
login until the time of the token is up, but goes on with that token.

It is put as a statement about all pairs of calls, the second later than the first, and not
about two that follow each other. Any number of other calls may lie between them, with
credentials of their own or without. -/
theorem logs_in_once (a : Login) (sound : s.store.cache.Sound) (course : Course a s calls) :
    (∀ c ∈ calls, c.Fair a)
      ∧ calls.Pairwise fun c d => ∀ token, c.Obtains a token →
          d.before.now < (c.after a).now + (a.lifetime : Int) →
            ¬ d.SendsLogin a ∧ d.Spared a token := by
  refine ⟨fun c _ => fair a c, ?_⟩
  induction course with
  | nil => exact List.Pairwise.nil
  | @cons s c calls meanwhile further ih =>
    have sound := (served a c).sound (sound_of_meanwhile meanwhile sound)
    refine List.pairwise_cons.mpr ⟨fun d hd token obtains early => ?_, ih sound⟩
    have spared := further.spared sound obtains.holds d hd early
    refine ⟨?_, spared⟩
    rintro ⟨login, sends⟩
    rw [spared.session] at sends
    exact absurd sends (List.cons_ne_self _ _).symm

end Course

/-! A run whose transports answer everything with a token. -/

section Granting

/-- A suite of no cases that answers every request with a token. -/
def granting : Suite :=
  { registry := .empty, cases := .empty
    transport := fun _ _ _ _ => ⟨5, .ok { body := Text.encode "\"t\"" }⟩ }

/-- A request with certain headers. -/
def asking (headers : List (String × String)) : Request :=
  { method := .get, url := "http://h/a", params := [], headers, body := .none, files := []
    timeout := 0, verify := true, proxies := none, retry := 0, engine := .standard }

/-- Two calls, the second one an hour less a nanosecond after the first. -/
theorem logs_in_once_of_two :
    let a : Login := { url := "http://h/login", tokenPath := "$" }
    let c : Call := ⟨granting, asking [], .fresh⟩
    let later : Session := { c.after a with now := 3600000000004 }
    let d : Call := ⟨granting, asking [("Accept", "*")], later⟩
    Session.fresh.store.cache.Sound ∧ Course a .fresh [c, d] ∧ c.Obtains a "t"
      ∧ (c.after a).now = 5 ∧ ¬ d.SendsLogin a
      ∧ d.answer a = .ok (asking [("Accept", "*"), ("Authorization", "Bearer t")]) := by
  intro a c later d
  have obtains : c.Obtains a "t" := by
    have address : Request.address c.before.store a.url = .ok "http://h/login" :=
      if_pos (by decide +kernel)
    have body : Text.decode? (Text.encode "\"t\"") = some "\"t\"" := by decide +kernel
    have json : Document.ofText? "\"t\"" = some (.text "t") := by
      simp [Document.ofText?, Document.readValue, Document.readQuoted, Document.skip,
        Document.isSeparator]
    have path : JsonPath.parse "$" = .ok [] := by
      simp [JsonPath.parse, JsonPath.readSteps, JsonPath.readStep, JsonPath.stepsFit]
    have all : JsonPath.findAll (.text "t") "$" "auth:token_jsonpath" = .ok [.text "t"] := by
      simp [JsonPath.findAll, path, JsonPath.select]
    have found : JsonPath.findFirst (.text "t") "$" "auth:token_jsonpath" = .ok (.text "t") := by
      rw [JsonPath.findFirst, all]
      rfl
    have bare : ¬ c.Own a := by
      rintro ⟨h, hmem, -⟩
      exact absurd hmem List.not_mem_nil
    have given : a.tokenIn "http://h/login"
        (RawReply.toReply { body := Text.encode "\"t\"" }) = .ok "t" := by
      show (JsonPath.findFirst (((Text.decode? (Text.encode _)).bind
        Document.ofText?).getD .null) "$" "auth:token_jsonpath").map Document.display = _
      rw [body, Option.bind_some, json, Option.getD_some, found]
      rfl
    exact obtains_iff.mpr ⟨bare, rfl, _, address, congrArg Stop.lift given, by decide +kernel⟩
  have now : (c.after a).now = 5 := by
    obtain ⟨url, after⟩ := obtains.after
    rw [after]
    rfl
  have course : Course a .fresh [c, d] := by
    refine .cons .refl (.cons (.single (.aside rfl ?_)) (.nil _))
    rw [now]
    decide
  have sound : Session.fresh.store.cache.Sound := Cache.sound_empty
  obtain ⟨-, once⟩ := logs_in_once a sound course
  obtain ⟨unsent, spared⟩ := (List.pairwise_cons.mp once).1 d List.mem_cons_self "t" obtains
    (by rw [now]; decide)
  refine ⟨sound, course, obtains, now, unsent, spared.token ?_⟩
  rintro ⟨h, hmem, same⟩
  obtain rfl := List.mem_singleton.mp hmem
  revert same
  decide

end Granting

end CaseRunner.Login
