import CaseRunner.Proofs.Request.Reading
import CaseRunner.Sending.Retry
import CaseRunner.Settings

/-!
# How often a request is tried

A request that says it may be tried again so many times should be tried once and, as
long as there is no answer, that many times more, with a wait between two tries
(`Request.TriedAsSaid`). So it is, whatever comes of the tries, exactly as long as the
number of tries can be counted (`Request.tried_as_said_iff`). The counts that are
accepted are those with 32 bits (`Request.retry_lt_of_ofDocument`), and the tries are
one more: with the greatest count there is no room for the number of tries, and a request
that would be answered at once is not tried at all. There is not even an error that says
so, for this is a crash (`Request.not_tried_of_greatest`).
-/

namespace CaseRunner

variable {α : Type}

/-! ## Trying in turn -/

/-- **Tries in turn**, beginning with the try number `n`: `k` with the wait that follows
each, and one more. After the last try there is no wait, whether it succeeds or not. -/
def inTurn (n k : Nat) : List Effort :=
  (List.range k).flatMap (fun i => [.attempt, .pause (backoff (n + i))]) ++ [.attempt]

theorem inTurn_zero (n : Nat) : inTurn n 0 = [.attempt] := rfl

theorem inTurn_succ (n k : Nat) :
    inTurn n (k + 1) = .attempt :: .pause (backoff n) :: inTurn (n + 1) k := by
  rw [inTurn, List.range_succ_eq_map, List.flatMap_cons, List.flatMap_map]
  have shift : (List.range k).flatMap (fun i => [Effort.attempt, .pause (backoff (n + i.succ))])
      = (List.range k).flatMap fun i => [Effort.attempt, .pause (backoff (n + 1 + i))] := by
    refine List.flatMap_congr fun i _ => ?_
    congr 4
    omega
  rw [shift]
  rfl

/-- There is one try more than there are waits. -/
theorem count_attempt_inTurn (n k : Nat) : (inTurn n k).count .attempt = k + 1 := by
  induction k generalizing n with
  | zero => rfl
  | succ k ih => simp [inTurn_succ, ih]

/-- **How tries end** that begin with the try number `n` and of which `left + 1` may be
made: `k` of them fail, and the next one says what comes of it all. The number of the first
try is a parameter, since the wait after a try depends on it. -/
structure Tried.EndsAt (t : Tried α) (attempt : Nat → Except String α) (n left k : Nat) :
    Prop where
  /-- There are no more tries than may be made. -/
  le : k ≤ left
  /-- All tries but the last one fail. -/
  failed : ∀ i < k, ∃ e, attempt (n + i) = .error e
  /-- Between two tries there is a wait. -/
  efforts : t.efforts = inTurn n k
  /-- What comes of the last try comes of it all. -/
  outcome : t.outcome = attempt (n + k)
  /-- There is no giving up before the last try that may be made. -/
  answered : k < left → ∃ a, attempt (n + k) = .ok a

/-- **Tries go on until one succeeds** or there are none left. By induction on how many are
left, with the number of the next try and the last fault left open; at the beginning there
is no fault yet, and it does not matter which text stands in its place, as there is at
least one try. -/
theorem exists_endsAt_tryFrom (attempt : Nat → Except String α) (left n : Nat) (last : String) :
    ∃ k, (tryFrom attempt (left + 1) n last).EndsAt attempt n left k := by
  induction left generalizing n last with
  | zero =>
    refine ⟨0, Nat.le_refl 0, nofun, ?_, ?_, nofun⟩
    · cases h : attempt n <;> simp [tryFrom, h, inTurn_zero]
    · cases h : attempt n <;> simp [tryFrom, h]
  | succ left ih =>
    cases h : attempt n with
    | ok a =>
      refine ⟨0, Nat.zero_le _, nofun, ?_, ?_, fun _ => ⟨a, h⟩⟩
      · rw [tryFrom, h, inTurn_zero]
      · rw [tryFrom, h]
        exact h.symm
    | error e =>
      -- the others begin with the next number, so each number is one more than in the whole
      obtain ⟨k, ends⟩ := ih (n + 1) e
      have next (i : Nat) : n + 1 + i = n + (i + 1) := by omega
      have tried : tryFrom attempt (left + 1 + 1) n last =
          let rest := tryFrom attempt (left + 1) (n + 1) e
          ⟨.attempt :: .pause (backoff n) :: rest.efforts, rest.outcome⟩ := by
        rw [tryFrom, h]
        rfl
      rw [tried]
      refine ⟨k + 1, Nat.succ_le_succ ends.le, fun i hi => ?_, ?_, ?_, fun hk => ?_⟩
      · cases i with
        | zero => exact ⟨e, h⟩
        | succ i => exact next i ▸ ends.failed i (Nat.lt_of_succ_lt_succ hi)
      · rw [inTurn_succ, ← ends.efforts]
      · exact next k ▸ ends.outcome
      · exact next k ▸ ends.answered (Nat.lt_of_succ_lt_succ hk)

/-! ## Counts that are accepted -/

namespace Schema

namespace Record

variable {σ : Type} [Source σ] {r : Record σ α} {P : α → Prop} {a : α}

omit [Source σ] in
theorem of_ofMembers (start : P r.start)
    (set : ∀ a field s b, P a → r.set a field s = .ok b → P b) {members : List (String × σ)}
    (h : r.ofMembers members = .ok a) : P a := by
  unfold ofMembers at h
  cases hrep : r.repeated? members with
  | some field => rw [hrep] at h; cases h
  | none =>
    rw [hrep] at h
    obtain ⟨b, hb, h⟩ := bind_eq_ok_iff.mp h
    have hP : P b := of_foldlM (fun a x c ha hc => by
      dsimp only at hc
      split at hc
      · exact set _ _ _ _ ha hc
      · exact Except.ok.inj hc ▸ ha) start hb
    split at h
    · cases h
    · exact Except.ok.inj h ▸ hP

omit [Source σ] in
theorem of_ofItems (start : P r.start)
    (set : ∀ a field s b, P a → r.set a field s = .ok b → P b) {items : List σ}
    (h : r.ofItems items = .ok a) : P a := by
  obtain ⟨b, hb, h⟩ := bind_eq_ok_iff.mp h
  have hP : P b := of_foldlM (fun a x c ha hc => set _ _ _ _ ha hc) start hb
  split at h
  · cases h
  · split at h
    · cases h
    · exact Except.ok.inj h ▸ hP

/-- **What every field keeps holds of the record that is read**, if it holds of the record
with nothing read. A record is read field by field from its defaults, so this is the
induction on the fields, made once for all records. -/
theorem of_read (start : P r.start) (set : ∀ a field s b, P a → r.set a field s = .ok b → P b)
    {s : σ} (h : r.read s = .ok a) : P a := by
  unfold read at h
  split at h
  · exact of_ofMembers start set h
  · split at h
    · exact of_ofItems start set h
    · cases h

end Record

/-- A count that is read from a document has 32 bits. -/
theorem lt_of_countLike? {d : Document} {n : Nat} (h : countLike? d = .ok (some n)) :
    n < pow2 32 := by
  obtain ⟨x?, -, h⟩ := bind_eq_ok_iff.mp h
  cases x? with
  | none => cases h
  | some x =>
    dsimp only at h
    split at h
    next fits =>
      cases h
      simp only [Bool.and_eq_true, decide_eq_true_eq] at fits
      have positive : 0 < pow2 32 := by decide
      omega
    next => cases h

theorem lt_of_whole {σ : Type} [Source σ] {bound n : Nat} {name : String} {s : σ}
    (h : whole bound name s = .ok n) : n < bound := by
  unfold whole at h
  split at h
  next m _ =>
    split at h
    next fits =>
      cases h
      simp only [Bool.and_eq_true, decide_eq_true_eq] at fits
      omega
    next => cases h
  next => cases h

end Schema

/-! Only one field of a configuration, and one of the settings, says how often a request
is tried again. -/

/-- Reading a field leaves the count as it is, or it is the field of the count. -/
theorem Config.retry_of_set {a b : Config} {field : String} {d : Document}
    (h : record.set a field d = .ok b) :
    b.retry = a.retry ∨ Schema.countLike? d = .ok b.retry := by
  unfold record at h
  dsimp only at h
  split at h
  case h_7 =>
    obtain ⟨n?, hn, rfl⟩ := map_eq_ok_iff.mp h
    exact .inr hn
  case h_9 => exact .inl (Except.ok.inj h ▸ rfl)
  all_goals
    obtain ⟨v, -, rfl⟩ := map_eq_ok_iff.mp h
    exact .inl rfl

theorem Settings.retry_of_set {σ : Type} [Source σ] {a b : Settings} {field : String} {d : σ}
    (h : record.set a field d = .ok b) :
    b.retry = a.retry ∨ Schema.whole (pow2 32) "u32" d = .ok b.retry := by
  unfold record at h
  dsimp only at h
  split at h
  case h_6 =>
    obtain ⟨n, hn, rfl⟩ := map_eq_ok_iff.mp h
    exact .inr hn
  case h_10 => exact .inl (Except.ok.inj h ▸ rfl)
  all_goals
    obtain ⟨v, -, rfl⟩ := map_eq_ok_iff.mp h
    exact .inl rfl

/-- A configuration with nothing but a count. -/
theorem Config.read_retry {d : Document} {location : String} {n? : Option Nat}
    (h : Schema.countLike? d = .ok n?) :
    read (some (.mapping [("retry", d)])) location = .ok { retry := n? } := by
  refine mapError_eq_ok_iff.mpr ?_
  show record.ofMembers [("retry", d)] = _
  refine bind_eq_ok_iff.mpr ⟨{ retry := n? }, ?_, rfl⟩
  refine bind_eq_ok_iff.mpr ⟨_, map_eq_ok_iff.mpr ⟨n?, h, rfl⟩, rfl⟩

/-- A count in a configuration has 32 bits. -/
theorem Config.retry_lt {section? : Option Document} {location : String} {c : Config}
    (h : read section? location = .ok c) : ∀ n, c.retry = some n → n < pow2 32 := by
  unfold read at h
  split at h
  · cases h
    exact nofun
  · cases h
    exact nofun
  · refine Schema.Record.of_read (P := fun c => ∀ n, c.retry = some n → n < pow2 32)
      (fun n hn => nomatch (hn : none = some n)) (fun a field d b ha hb n hn => ?_)
      (mapError_eq_ok_iff.mp h)
    rcases retry_of_set hb with same | read
    · exact ha n (same ▸ hn)
    · exact Schema.lt_of_countLike? (hn ▸ read)

/-- What settings are made of: the text of a file, or nothing. -/
theorem Settings.exists_of_load {fs : FileSystem} {file : String} {c : Settings}
    (h : load fs file = .ok c) :
    ∃ given directory, (given = {} ∨ ∃ content, ofText file content = .ok given)
      ∧ c = given.inDirectory directory := by
  unfold load at h
  dsimp only at h
  split at h
  · split at h
    next content _ =>
      obtain ⟨given, hgiven, h⟩ := bind_eq_ok_iff.mp h
      split at h
      · exact ⟨given, _, .inr ⟨content, hgiven⟩, (Except.ok.inj h).symm⟩
      · cases h
    · cases h
  · obtain ⟨given, hgiven, h⟩ := bind_eq_ok_iff.mp h
    split at h
    · exact ⟨given, _, .inl (Except.ok.inj hgiven).symm, (Except.ok.inj h).symm⟩
    · cases h

/-- A count in the settings has 32 bits. -/
theorem Settings.retry_lt {fs : FileSystem} {file : String} {c : Settings}
    (h : load fs file = .ok c) : c.retry < pow2 32 := by
  have default : ({} : Settings).retry < pow2 32 := by decide
  obtain ⟨given, directory, hgiven, rfl⟩ := exists_of_load h
  show given.retry < pow2 32
  rcases hgiven with rfl | ⟨content, h⟩
  · exact default
  unfold ofText at h
  split at h
  · exact Except.ok.inj h ▸ default
  · obtain ⟨n, -, h⟩ := bind_eq_ok_iff.mp (mapError_eq_ok_iff.mp h)
    refine Schema.Record.of_read (P := fun c => c.retry < pow2 32) default
      (fun a field d b ha hb => ?_) (mapError_eq_ok_iff.mp h)
    rcases retry_of_set hb with same | read
    · exact same ▸ ha
    · exact Schema.lt_of_whole read

namespace Request

variable {d : Document} {section? : Option Document} {config : Config} {settings : Settings}
  {store : Store} {fs fs' : FileSystem} {file place location : String} {r : Request}

/-- **The counts that are accepted**: a request that is made from a section, with a
configuration and with settings that were read, says how often it is tried again with 32
bits.

The count comes from the configuration or from the settings, and never from the section of
the request. -/
theorem retry_lt_of_ofDocument (hconfig : Config.read section? place = .ok config)
    (hsettings : Settings.load fs' file = .ok settings)
    (h : ofDocument d config store fs settings.requestDefaults location = .ok r) :
    r.retry < pow2 32 := by
  obtain ⟨-, -, -, -, -, hcount⟩ := exists_of_ofDocument h
  rw [hcount]
  cases hretry : config.retry with
  | none => exact Settings.retry_lt hsettings
  | some n => exact Config.retry_lt hconfig n hretry

/-! ## Trying a request -/

/-- **A request is tried as often as it says**: `k` tries fail, and then comes one that
succeeds or is the last of those that the request says. Whether there is an answer is left
open, for this is up to the server. -/
structure TriedAsSaid (r : Request) (attempt : Nat → Except String RawReply) (k : Nat) :
    Prop where
  /-- After the first try there are no more than the request says. -/
  le_retry : k ≤ r.retry
  /-- All tries but the last one fail. -/
  failed : ∀ i < k, ∃ e, attempt (i + 1) = .error e
  /-- The tries are made in turn, each but the last one with its wait. -/
  efforts : ∃ tried, tryRequest r attempt = .ok tried ∧ tried.efforts = inTurn 1 k
  /-- The first answer is the answer. -/
  answered : ∀ reply, attempt (k + 1) = .ok reply → (deliver r attempt).result = .ok reply
  /-- Without an answer there are no more tries to be made, and the error says how many
  there were and why the last one failed. -/
  gaveUp : ∀ e, attempt (k + 1) = .error e → k = r.retry
    ∧ (deliver r attempt).result = .error (.error (.send (r.method.spelling ++ " " ++
        r.url ++ " failed after " ++ toString (r.retry + 1) ++ " attempt(s): " ++ e)))

/-- There is a try after those that fail. In particular there is at least one. -/
theorem TriedAsSaid.count_attempt {attempt : Nat → Except String RawReply} {k : Nat}
    (h : r.TriedAsSaid attempt k) : ∃ tried, tryRequest r attempt = .ok tried
      ∧ tried.efforts.count .attempt = k + 1 := by
  obtain ⟨tried, htried, efforts⟩ := h.efforts
  exact ⟨tried, htried, by rw [efforts, count_attempt_inTurn]⟩

/-- If the tries can be counted, they are made. -/
theorem tryRequest_of_fits (attempt : Nat → Except String RawReply)
    (fits : (Quantity.tries (r.retry + 1)).fits = true) :
    tryRequest r attempt = .ok (tryFrom attempt (r.retry + 1) 1 "") := by
  rw [tryRequest, attemptLimit, Quantity.check_of_fits fits]
  rfl

/-- If they cannot, nothing is tried. -/
theorem tryRequest_of_unfit (attempt : Nat → Except String RawReply)
    (unfit : (Quantity.tries (r.retry + 1)).fits = false) :
    tryRequest r attempt = .error (.crash _ unfit) := by
  rw [tryRequest, attemptLimit, Quantity.check_of_unfit unfit]
  rfl

/-- A request for which there are as many tries as it says. -/
theorem exists_triedAsSaid (attempt : Nat → Except String RawReply)
    (fits : (Quantity.tries (r.retry + 1)).fits = true) : ∃ k, r.TriedAsSaid attempt k := by
  obtain ⟨k, ends⟩ := exists_endsAt_tryFrom attempt r.retry 1 ""
  have tried := tryRequest_of_fits attempt fits
  have result : (deliver r attempt).result = Stop.lift ((attempt (k + 1)).mapError fun e =>
      .send (r.method.spelling ++ " " ++ r.url ++ " failed after " ++ toString (r.retry + 1) ++
        " attempt(s): " ++ e)) := by
    rw [deliver, tried]
    dsimp only
    rw [ends.outcome, Nat.add_comm 1 k]
  refine ⟨k, ends.le, fun i hi => Nat.add_comm 1 i ▸ ends.failed i hi,
    ⟨_, tried, ends.efforts⟩, fun reply hreply => ?_, fun e he => ⟨?_, ?_⟩⟩
  · rw [result, hreply]
    rfl
  · refine Nat.le_antisymm ends.le (Nat.le_of_not_lt fun hlt => ?_)
    obtain ⟨reply, hreply⟩ := ends.answered hlt
    rw [Nat.add_comm 1 k, he] at hreply
    cases hreply
  · rw [result, he]
    rfl

/-- **How often a request is tried.** Whatever comes of the tries, a request that says with
32 bits how often it is tried again is tried as often as it says exactly if the number of
tries has 32 bits too. Otherwise it is not tried, and the program ends.

Of all the counts that are accepted, this leaves out the greatest. The number of tries is
one more than the count, and the sum is made with as many bits as the count has. -/
theorem tried_as_said_iff (attempt : Nat → Except String RawReply) (h : r.retry < pow2 32) :
    ((∃ k, r.TriedAsSaid attempt k) ↔ r.retry + 1 < pow2 32)
      ∧ (¬ r.retry + 1 < pow2 32 → r.retry + 1 = pow2 32
        ∧ Stop.Crashes (tryRequest r attempt) ∧ Stop.Crashes (deliver r attempt).result) := by
  have fits_iff : (Quantity.tries (r.retry + 1)).fits = true ↔ r.retry + 1 < pow2 32 :=
    decide_eq_true_iff
  have crash (hlarge : ¬ r.retry + 1 < pow2 32) : Stop.Crashes (tryRequest r attempt) := by
    have unfit := Bool.eq_false_iff.mpr (mt fits_iff.mp hlarge)
    rw [tryRequest_of_unfit attempt unfit]
    exact Stop.crashes_crash unfit
  refine ⟨⟨?_, fun hsmall => exists_triedAsSaid attempt (fits_iff.mpr hsmall)⟩,
    fun hlarge => ⟨by omega, crash hlarge, ?_⟩⟩
  · rintro ⟨k, said⟩
    by_contra hlarge
    obtain ⟨tried, htried, -⟩ := said.efforts
    exact Stop.not_crashes_ok tried (htried ▸ crash hlarge)
  · obtain ⟨q, unfit, htry⟩ := crash hlarge
    rw [deliver, htry]
    exact Stop.crashes_crash unfit

/-- A section that asks for little. -/
def fetching : Document := .mapping [("method", .text "GET"), ("url", .text "http://h/a")]

/-- The request that is made of it, to be tried again so many times. -/
def fetch (retry : Nat) : Request where
  method := .get
  url := "http://h/a"
  params := []
  headers := []
  body := .none
  files := []
  timeout := 30000000000
  verify := true
  proxies := none
  retry := retry
  engine := .standard

/-- A request that is tried twice in vain, and then answered. -/
theorem tried_as_said_of_third :
    let attempt (n : Nat) : Except String RawReply := if n < 3 then .error "down" else .ok {}
    ofDocument fetching { retry := some 2 } {} .empty {} "a" = .ok (fetch 2)
      ∧ (fetch 2).retry < pow2 32 ∧ (∃ k, (fetch 2).TriedAsSaid attempt k)
      ∧ (tryRequest (fetch 2) attempt).map (·.efforts) =
          .ok [.attempt, .pause 100, .attempt, .pause 200, .attempt] := by
  intro attempt
  have small : (fetch 2).retry < pow2 32 := by decide
  obtain ⟨⟨-, said⟩, -⟩ := tried_as_said_iff attempt small
  exact ⟨by decide +kernel, small, said (by decide), rfl⟩

/-- The greatest count that is accepted. -/
def greatestRetry : Nat := 4294967295

/-- **A request with the greatest count is not tried**, although it would be answered at
once: there is no room for the number of its tries. -/
theorem not_tried_of_greatest :
    let attempt (_ : Nat) : Except String RawReply := .ok {}
    Config.read (some (.mapping [("retry", .int greatestRetry)])) "a" =
        .ok { retry := some greatestRetry }
      ∧ ofDocument fetching { retry := some greatestRetry } {} .empty {} "a" =
          .ok (fetch greatestRetry)
      ∧ Stop.Crashes (tryRequest (fetch greatestRetry) attempt)
      ∧ Stop.Crashes (deliver (fetch greatestRetry) attempt).result
      ∧ ¬ ∃ k, (fetch greatestRetry).TriedAsSaid attempt k := by
  intro attempt
  have count : Schema.countLike? (.int greatestRetry) = .ok (some greatestRetry) := by
    decide +kernel
  have unfit : (Quantity.tries ((fetch greatestRetry).retry + 1)).fits = false := by
    decide +kernel
  have untried := tryRequest_of_unfit attempt unfit
  refine ⟨Config.read_retry count, by decide +kernel, ⟨_, unfit, untried⟩,
    ⟨_, unfit, by rw [deliver, untried]⟩, ?_⟩
  rintro ⟨k, said⟩
  obtain ⟨tried, htried, -⟩ := said.efforts
  exact nomatch untried.symm.trans htried

end Request

end CaseRunner
