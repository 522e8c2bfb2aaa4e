import Mathlib
import AapGateway.Migration.BulkUpdate

/-!
# The requests of a bulk update

`_send_bulk_update` is run against a service that keeps a log of its requests. The log shows what
is sent and how often: the chunks are the items in order, a chunk is tried again only after a
transient failure and at most three times in all, and nothing follows a chunk that fails.

## Main definitions

* `recorded`: the service with its log;
* `Response.outcome`: what a response means for its chunk;
* `Tried`, `Acknowledged`, `Failed`, `Interrupted`: the responses to a chunk.

## Main results

* `attempts_recorded`: the requests for a chunk;
* `sendBulkUpdate_requests`: the requests of an update and its result.
-/

namespace AapGateway.Migration.Resources

/-- What a response means for its chunk. -/
inductive Outcome where
  | acknowledged (updated : ℕ)
  | transient
  | permanent
  | interrupted
  deriving DecidableEq, Repr

/-- What a response means for its chunk. An answer of status 200 that is no JSON is transient, and
one that is no dictionary acknowledges nothing. -/
def Response.outcome : Response → Outcome
  | .httpError none => .permanent
  | .httpError (some status) => if status ∈ transientStatusCodes then .transient else .permanent
  | .requestException => .transient
  | .interrupted => .interrupted
  | .reply status body =>
    if status ∈ transientStatusCodes then .transient
    else if status ≠ 200 then .permanent
    else
      match body with
      | .notJson => .transient
      | .notDict => .acknowledged 0
      | .dict updated => .acknowledged updated

/-- The outcome of the last response to a chunk. -/
def lastOutcome (responses : List Response) : Option Outcome :=
  responses.getLast?.map Response.outcome

/-- The items that the last response to a chunk acknowledges. -/
def acknowledgedCount (responses : List Response) : ℕ :=
  match lastOutcome responses with
  | some (.acknowledged updated) => updated
  | _ => 0

/-- The chunk is tried at least once and at most three times, and again only after a transient
failure. -/
structure Tried (responses : List Response) : Prop where
  ne_nil : responses ≠ []
  length_le : responses.length ≤ maxTransientRetries
  again : ∀ response ∈ responses.dropLast, response.outcome = .transient

/-- The last response acknowledges the chunk. -/
def Acknowledged (responses : List Response) : Prop :=
  ∃ updated, lastOutcome responses = some (.acknowledged updated)

/-- The last response is a permanent failure, or the last of three transient ones. -/
def Failed (responses : List Response) : Prop :=
  lastOutcome responses = some .permanent ∨
    lastOutcome responses = some .transient ∧ responses.length = maxTransientRetries

/-- The process ends before the last response. -/
def Interrupted (responses : List Response) : Prop :=
  lastOutcome responses = some .interrupted

/-- The responses to a chunk with at most `limit` attempts, and what they say about its result. -/
structure Reports (limit : ℕ) (responses : List Response) (result : ChunkResult) : Prop where
  ne_nil : responses ≠ []
  length_le : responses.length ≤ limit
  again : ∀ response ∈ responses.dropLast, response.outcome = .transient
  last :
    match result with
    | .updated n => lastOutcome responses = some (.acknowledged n)
    | .interrupted => lastOutcome responses = some .interrupted
    | .permanentFailure =>
      lastOutcome responses = some .permanent ∨
        lastOutcome responses = some .transient ∧ responses.length = limit

section Requests

variable {σ β : Type}

/-- The service with the log of its requests and their responses. -/
def recorded (post : σ → List β → σ × Response) (s : σ × List (List β × Response))
    (chunk : List β) : (σ × List (List β × Response)) × Response :=
  (((post s.1 chunk).1, s.2 ++ [(chunk, (post s.1 chunk).2)]), (post s.1 chunk).2)

/-- The log of the chunks with their responses. -/
def requestsOf (sent : List (List β × List Response)) : List (List β × Response) :=
  sent.flatMap fun (chunk, responses) => responses.map fun response => (chunk, response)

/-- The chunks before the last one are acknowledged, and the update stops with the responses to the
last one. -/
def Stops (Stop : List Response → Prop) (sent : List (List β × List Response)) (k : ℕ) : Prop :=
  ∃ before chunk responses, sent = before ++ [(chunk, responses)] ∧ before.length = k ∧
    (∀ c ∈ before, Acknowledged c.2) ∧ Stop responses

variable {post : σ → List β → σ × Response} {items : List β}

/-- An attempt follows the outcome of its response. A transient failure is tried again unless it
is the third attempt. -/
theorem tryBulkUpdateOnce_eq (response : Response) (attempt : ℕ) :
    match response.outcome with
    | .acknowledged n => ∃ body, tryBulkUpdateOnce response attempt = .data body ∧
        processBulkResponse body = n
    | .transient => tryBulkUpdateOnce response attempt = retryOrFail attempt
    | .permanent => tryBulkUpdateOnce response attempt = .permanentFailure
    | .interrupted => tryBulkUpdateOnce response attempt = .interrupted := by
  cases response with
  | httpError status =>
      rcases status with _ | status
      · rfl
      · by_cases h : status ∈ transientStatusCodes <;>
          simp [Response.outcome, tryBulkUpdateOnce, handleHttpError, h]
  | requestException => rfl
  | interrupted => rfl
  | reply status body =>
      by_cases h : status ∈ transientStatusCodes
      · simp [Response.outcome, tryBulkUpdateOnce, h]
      · by_cases h200 : status = 200
        · subst h200
          cases body <;> simp [Response.outcome, tryBulkUpdateOnce, processBulkResponse, h]
        · simp [Response.outcome, tryBulkUpdateOnce, h, h200]

/-- A chunk is tried again exactly after a transient failure that was not the third attempt. -/
theorem tryBulkUpdateOnce_eq_retry_iff (response : Response) (attempt : ℕ) :
    tryBulkUpdateOnce response attempt = .retrySentinel ↔
      response.outcome = .transient ∧ attempt + 1 < maxTransientRetries := by
  have hattempt := tryBulkUpdateOnce_eq response attempt
  cases houtcome : response.outcome with
  | acknowledged n =>
      simp only [houtcome] at hattempt
      obtain ⟨body, hdata, -⟩ := hattempt
      simp [hdata]
  | transient =>
      simp only [houtcome] at hattempt
      by_cases h : attempt < maxTransientRetries - 1
      · have hlt : attempt + 1 < maxTransientRetries := by omega
        simp [hattempt, retryOrFail, shouldRetry, h, hlt]
      · have hge : ¬ attempt + 1 < maxTransientRetries := by omega
        simp [hattempt, retryOrFail, shouldRetry, h, hge]
  | permanent =>
      simp only [houtcome] at hattempt
      simp [hattempt]
  | interrupted =>
      simp only [houtcome] at hattempt
      simp [hattempt]

/-- The outcome of a single response. -/
@[simp]
theorem lastOutcome_singleton (response : Response) :
    lastOutcome [response] = some response.outcome := rfl

/-- Responses before the last one do not matter for its outcome. -/
theorem lastOutcome_cons {responses : List Response} (response : Response)
    (h : responses ≠ []) : lastOutcome (response :: responses) = lastOutcome responses := by
  obtain ⟨first, rest, rfl⟩ := List.exists_cons_of_ne_nil h
  simp [lastOutcome, List.getLast?_cons_cons]

/-- A response that is not followed by another attempt. -/
theorem attempts_of_stop {chunk : List β} {remaining attempt : ℕ} {s : σ}
    (hstop : tryBulkUpdateOnce (post s chunk).2 attempt ≠ .retrySentinel)
    (hlimit : (post s chunk).2.outcome = .transient → remaining = 0) :
    (attempts post chunk (remaining + 1) attempt s).1 = (post s chunk).1 ∧
      Reports (remaining + 1) [(post s chunk).2]
        (attempts post chunk (remaining + 1) attempt s).2 := by
  have hattempt := tryBulkUpdateOnce_eq (post s chunk).2 attempt
  cases houtcome : (post s chunk).2.outcome with
  | acknowledged n =>
      simp only [houtcome] at hattempt
      obtain ⟨body, hdata, hcount⟩ := hattempt
      simp only [attempts, hdata]
      exact ⟨trivial, by simp, by simp, by simp, by simp [houtcome, hcount]⟩
  | transient =>
      -- Without a retry the transient failure was the last attempt.
      simp only [houtcome] at hattempt
      have hfail : tryBulkUpdateOnce (post s chunk).2 attempt = .permanentFailure := by
        rw [hattempt, retryOrFail] at hstop ⊢
        split_ifs at hstop ⊢
        · exact absurd rfl hstop
        · rfl
      simp only [attempts, hfail]
      exact ⟨trivial, by simp, by simp, by simp, Or.inr ⟨by simp [houtcome], by
        simp [hlimit houtcome]⟩⟩
  | permanent =>
      simp only [houtcome] at hattempt
      simp only [attempts, hattempt]
      exact ⟨trivial, by simp, by simp, by simp, Or.inl (by simp [houtcome])⟩
  | interrupted =>
      simp only [houtcome] at hattempt
      simp only [attempts, hattempt]
      exact ⟨trivial, by simp, by simp, by simp, by simp [houtcome]⟩

/-- One more response in front, after which the chunk is tried again. -/
theorem Reports.cons {limit : ℕ} {responses : List Response} {result : ChunkResult}
    (h : Reports limit responses result) {response : Response}
    (htransient : response.outcome = .transient) :
    Reports (limit + 1) (response :: responses) result := by
  refine ⟨List.cons_ne_nil _ _, by simpa using h.length_le, fun r hr => ?_, ?_⟩
  · rw [List.dropLast_cons_of_ne_nil h.ne_nil, List.mem_cons] at hr
    rcases hr with rfl | hr
    · exact htransient
    · exact h.again r hr
  · have hlast := h.last
    rw [lastOutcome_cons response h.ne_nil]
    cases result with
    | updated n => exact hlast
    | interrupted => exact hlast
    | permanentFailure => simpa using hlast

/-- The log does not change what the service answers. -/
theorem attempts_recorded_eq (chunk : List β) (remaining attempt : ℕ) (s : σ)
    (log : List (List β × Response)) :
    (attempts (recorded post) chunk remaining attempt (s, log)).1.1 =
        (attempts post chunk remaining attempt s).1 ∧
      (attempts (recorded post) chunk remaining attempt (s, log)).2 =
        (attempts post chunk remaining attempt s).2 := by
  induction remaining generalizing attempt s log with
  | zero => exact ⟨rfl, rfl⟩
  | succ remaining ih =>
      simp only [attempts, recorded]
      cases tryBulkUpdateOnce (post s chunk).2 attempt with
      | retrySentinel => exact ih (attempt + 1) _ _
      | permanentFailure => exact ⟨rfl, rfl⟩
      | interrupted => exact ⟨rfl, rfl⟩
      | data body => exact ⟨rfl, rfl⟩

/-- The request that is not followed by another one. -/
theorem attempts_recorded_of_stop {chunk : List β} {remaining attempt : ℕ}
    (hattempt : attempt + (remaining + 1) = maxTransientRetries) (s : σ)
    (log : List (List β × Response))
    (hstop : tryBulkUpdateOnce (post s chunk).2 attempt ≠ .retrySentinel) :
    (attempts (recorded post) chunk (remaining + 1) attempt (s, log)).1.2 =
        log ++ requestsOf [(chunk, [(post s chunk).2])] ∧
      Reports (remaining + 1) [(post s chunk).2]
        (attempts post chunk (remaining + 1) attempt s).2 := by
  have hlimit : (post s chunk).2.outcome = .transient → remaining = 0 := by
    intro htransient
    by_contra hremaining
    exact hstop ((tryBulkUpdateOnce_eq_retry_iff _ _).mpr ⟨htransient, by omega⟩)
  have hlog := (@attempts_of_stop _ _ (recorded post) chunk remaining attempt (s, log) hstop
    hlimit).1
  exact ⟨by rw [hlog]; rfl, (attempts_of_stop hstop hlimit).2⟩

/-- The requests for a chunk are what its result reports. -/
theorem attempts_recorded (chunk : List β) (remaining attempt : ℕ)
    (hattempt : attempt + (remaining + 1) = maxTransientRetries) (s : σ)
    (log : List (List β × Response)) :
    ∃ responses : List Response,
      (attempts (recorded post) chunk (remaining + 1) attempt (s, log)).1.2 =
        log ++ requestsOf [(chunk, responses)] ∧
      Reports (remaining + 1) responses (attempts post chunk (remaining + 1) attempt s).2 := by
  induction remaining generalizing attempt s log with
  | zero =>
      refine ⟨_, attempts_recorded_of_stop hattempt s log fun hretry => ?_⟩
      have hlt := ((tryBulkUpdateOnce_eq_retry_iff _ _).mp hretry).2
      omega
  | succ remaining ih =>
      by_cases hretry : tryBulkUpdateOnce (post s chunk).2 attempt = .retrySentinel
      · -- The response is transient, and the rest of the log is that of the next attempt.
        obtain ⟨responses, hlog, hreports⟩ := ih (attempt + 1) (by omega) (post s chunk).1
          (log ++ [(chunk, (post s chunk).2)])
        refine ⟨(post s chunk).2 :: responses, ?_, ?_⟩
        · rw [attempts]
          simp only [recorded, hretry]
          exact hlog.trans (by simp [requestsOf])
        · rw [attempts]
          simp only [hretry]
          exact hreports.cons ((tryBulkUpdateOnce_eq_retry_iff _ _).mp hretry).1
      · exact ⟨_, attempts_recorded_of_stop hattempt s log hretry⟩

section Chunks

/-- The slices of items are the first one and those of the rest. -/
theorem chunksOf_eq_cons (hitems : items ≠ []) :
    chunksOf items = (0, items.take maxBulkChunkSize) ::
      (chunksOf (items.drop maxBulkChunkSize)).map fun (i, chunk) =>
        (i + maxBulkChunkSize, chunk) := by
  have hpos : 0 < items.length := List.length_pos_iff.mpr hitems
  have hcount : (items.length + maxBulkChunkSize - 1) / maxBulkChunkSize =
      ((items.drop maxBulkChunkSize).length + maxBulkChunkSize - 1) / maxBulkChunkSize + 1 := by
    rw [List.length_drop]
    simp only [maxBulkChunkSize]
    omega
  rw [chunksOf, hcount, List.range_succ_eq_map, List.map_cons, chunksOf, List.map_map,
    List.map_map]
  simp only [zero_mul, List.drop_zero]
  congr 1
  refine List.map_congr_left fun k _ => ?_
  have hstart : (k + 1) * maxBulkChunkSize = k * maxBulkChunkSize + maxBulkChunkSize := by ring
  simp [hstart, List.drop_drop, Nat.add_comm]

/-- The slices are the items in order, and none of them is empty or too long. -/
theorem flatten_chunksOf (items : List β) :
    ((chunksOf items).map Prod.snd).flatten = items ∧
      ∀ chunk ∈ (chunksOf items).map Prod.snd, chunk ≠ [] ∧ chunk.length ≤ maxBulkChunkSize := by
  induction hlength : items.length using Nat.strong_induction_on generalizing items with
  | _ n ih =>
      rcases eq_or_ne items [] with rfl | hitems
      · simp [chunksOf, maxBulkChunkSize]
      · have hpos : 0 < items.length := List.length_pos_iff.mpr hitems
        have hshorter : (items.drop maxBulkChunkSize).length < n := by
          rw [List.length_drop]
          simp only [maxBulkChunkSize]
          omega
        obtain ⟨hflatten, hsizes⟩ := ih _ hshorter _ rfl
        have hrest : ((chunksOf (items.drop maxBulkChunkSize)).map fun (i, chunk) =>
            (i + maxBulkChunkSize, chunk)).map Prod.snd =
              (chunksOf (items.drop maxBulkChunkSize)).map Prod.snd := by
          rw [List.map_map]
          rfl
        rw [chunksOf_eq_cons hitems, List.map_cons, hrest]
        refine ⟨by rw [List.flatten_cons, hflatten, List.take_append_drop], ?_⟩
        rintro chunk (_ | ⟨_, hchunk⟩)
        · refine ⟨?_, List.length_take_le _ _⟩
          rw [ne_eq, List.take_eq_nil_iff]
          simp [maxBulkChunkSize, hitems]
        · exact hsizes chunk hchunk

/-- The index of a slice. -/
theorem getElem?_chunksOf {k i : ℕ} {chunk : List β}
    (h : (chunksOf items)[k]? = some (i, chunk)) : i = k * maxBulkChunkSize := by
  simp only [chunksOf, List.getElem?_map, Option.map_eq_some_iff, Prod.mk.injEq] at h
  obtain ⟨k', hrange, rfl, -⟩ := h
  obtain ⟨_, hk⟩ := List.getElem?_eq_some_iff.mp hrange
  rw [← hk, List.getElem_range]

end Chunks

section Update

/-- The requests for a chunk with three attempts. -/
theorem sendBulkUpdateChunk_recorded (chunk : List β) (s : σ) (log : List (List β × Response)) :
    ∃ responses : List Response, Tried responses ∧
      sendBulkUpdateChunk (recorded post) chunk (s, log) =
        (((sendBulkUpdateChunk post chunk s).1, log ++ requestsOf [(chunk, responses)]),
          (sendBulkUpdateChunk post chunk s).2) ∧
      match (sendBulkUpdateChunk post chunk s).2 with
      | .updated n => lastOutcome responses = some (.acknowledged n)
      | .interrupted => Interrupted responses
      | .permanentFailure => Failed responses := by
  obtain ⟨responses, hlog, hreports⟩ := @attempts_recorded _ _ post chunk 2 0 rfl s log
  obtain ⟨hstate, hresult⟩ := @attempts_recorded_eq _ _ post chunk maxTransientRetries 0 s log
  refine ⟨responses, ⟨hreports.ne_nil, hreports.length_le, hreports.again⟩, ?_, ?_⟩
  · exact Prod.ext (Prod.ext hstate hlog) hresult
  · have hlast := hreports.last
    rw [sendBulkUpdateChunk]
    exact hlast

/-- One more acknowledged chunk in front. -/
theorem Stops.cons {Stop : List Response → Prop} {sent : List (List β × List Response)} {k : ℕ}
    (h : Stops Stop sent k) {c : List β × List Response} (hc : Acknowledged c.2) :
    Stops Stop (c :: sent) (k + 1) := by
  obtain ⟨before, chunk, responses, rfl, rfl, hbefore, hstop⟩ := h
  refine ⟨c :: before, chunk, responses, rfl, rfl, ?_, hstop⟩
  rintro c' (_ | ⟨_, hc'⟩)
  · exact hc
  · exact hbefore c' hc'

/-- The requests for slices of the items: the chunks that are sent come first among the slices,
and the result says how the last one ends. -/
theorem sendChunks_recorded (chunks : List (ℕ × List β)) (total : ℕ) (s : σ)
    (log : List (List β × Response)) :
    ∃ sent : List (List β × List Response),
      sendChunks (recorded post) chunks total (s, log) =
        (((sendChunks post chunks total s).1, log ++ requestsOf sent),
          (sendChunks post chunks total s).2) ∧
      sent.map Prod.fst <+: chunks.map Prod.snd ∧ (∀ c ∈ sent, Tried c.2) ∧
      match (sendChunks post chunks total s).2 with
      | .ok n => sent.map Prod.fst = chunks.map Prod.snd ∧ (∀ c ∈ sent, Acknowledged c.2) ∧
          n = total + (sent.map fun c => acknowledgedCount c.2).sum
      | .error (.permanentFailure i) =>
          ∃ k, (chunks[k]?).map Prod.fst = some i ∧ Stops Failed sent k
      | .error .interrupted => ∃ k, Stops Interrupted sent k := by
  induction chunks generalizing total s log with
  | nil => exact ⟨[], by simp [sendChunks, requestsOf], by simp, by simp, by simp [sendChunks]⟩
  | cons c chunks ih =>
      obtain ⟨responses, htried, hrun, hlast⟩ :=
        @sendBulkUpdateChunk_recorded _ _ post c.2 s log
      have hsingle : ∀ Stop : List Response → Prop, Stop responses →
          Stops Stop [(c.2, responses)] 0 :=
        fun Stop hstop => ⟨[], c.2, responses, rfl, rfl, by simp, hstop⟩
      have hprefix : [(c.2, responses)].map Prod.fst <+: (c :: chunks).map Prod.snd := by simp
      rcases hchunk : sendBulkUpdateChunk post c.2 s with ⟨s', _ | _ | n⟩
      · -- The chunk fails, and nothing is sent after it.
        rw [hchunk] at hrun hlast
        refine ⟨[(c.2, responses)], ?_, hprefix, by simpa using htried, ?_⟩
        · simp [sendChunks, hrun, hchunk]
        · have hresult : (sendChunks post (c :: chunks) total s).2 =
              .error (.permanentFailure c.1) := by simp [sendChunks, hchunk]
          rw [hresult]
          exact ⟨0, rfl, hsingle Failed hlast⟩
      · rw [hchunk] at hrun hlast
        refine ⟨[(c.2, responses)], ?_, hprefix, by simpa using htried, ?_⟩
        · simp [sendChunks, hrun, hchunk]
        · have hresult : (sendChunks post (c :: chunks) total s).2 = .error .interrupted := by
            simp [sendChunks, hchunk]
          rw [hresult]
          exact ⟨0, hsingle Interrupted hlast⟩
      · rw [hchunk] at hrun hlast
        have hlast : lastOutcome responses = some (.acknowledged n) := hlast
        have hack : Acknowledged responses := ⟨n, hlast⟩
        obtain ⟨sent, hsent, hfirst, htries, hresult⟩ :=
          ih (total + n) s' (log ++ requestsOf [(c.2, responses)])
        refine ⟨(c.2, responses) :: sent, ?_, ?_, ?_, ?_⟩
        · simp only [sendChunks, hrun, hchunk, hsent]
          simp [requestsOf]
        · simpa using hfirst
        · rintro c' (_ | ⟨_, hc'⟩)
          · exact htried
          · exact htries c' hc'
        · have hrest : (sendChunks post (c :: chunks) total s).2 =
              (sendChunks post chunks (total + n) s').2 := by simp [sendChunks, hchunk]
          rw [hrest]
          -- The later chunks stop where they stop, one place further on, or are all acknowledged.
          rcases hend : (sendChunks post chunks (total + n) s').2 with (i | _) | m
          · rw [hend] at hresult
            obtain ⟨k, hindex, hstops⟩ := hresult
            exact ⟨k + 1, hindex, hstops.cons hack⟩
          · rw [hend] at hresult
            obtain ⟨k, hstops⟩ := hresult
            exact ⟨k + 1, hstops.cons hack⟩
          · rw [hend] at hresult
            obtain ⟨hall, hacks, hsum⟩ := hresult
            refine ⟨by simp [hall], ?_, ?_⟩
            · rintro c' (_ | ⟨_, hc'⟩)
              · exact hack
              · exact hacks c' hc'
            · have hcount : acknowledgedCount responses = n := by
                simp only [acknowledgedCount, hlast]
              rw [hsum, List.map_cons, List.sum_cons, hcount, Nat.add_assoc]

/-- The chunks that are sent are the items in order, up to where the update stops. It stops with
`RuntimeError` at the first chunk that fails, and otherwise returns what was acknowledged. -/
theorem sendBulkUpdate_requests (post : σ → List β → σ × Response) (items : List β) (s : σ) :
    ∃ (sent : List (List β × List Response)) (rest : List β),
      sendBulkUpdate (recorded post) items (s, []) =
        (((sendBulkUpdate post items s).1, requestsOf sent), (sendBulkUpdate post items s).2) ∧
      items = (sent.map Prod.fst).flatten ++ rest ∧
      (∀ c ∈ sent, c.1 ≠ [] ∧ c.1.length ≤ maxBulkChunkSize ∧ Tried c.2) ∧
      match (sendBulkUpdate post items s).2 with
      | .ok n => rest = [] ∧ (∀ c ∈ sent, Acknowledged c.2) ∧
          n = (sent.map fun c => acknowledgedCount c.2).sum
      | .error (.permanentFailure i) => ∃ k, i = k * maxBulkChunkSize ∧ Stops Failed sent k
      | .error .interrupted => ∃ k, Stops Interrupted sent k := by
  obtain ⟨sent, hrun, ⟨later, hlater⟩, htried, hresult⟩ :=
    @sendChunks_recorded _ _ post (chunksOf items) 0 s []
  obtain ⟨hflatten, hsizes⟩ := flatten_chunksOf items
  refine ⟨sent, later.flatten, by simpa [sendBulkUpdate] using hrun, ?_, fun c hc => ?_, ?_⟩
  · rw [← List.flatten_append, hlater, hflatten]
  · have hmem : c.1 ∈ (chunksOf items).map Prod.snd := by
      rw [← hlater]
      exact List.mem_append_left _ (List.mem_map_of_mem hc)
    exact ⟨(hsizes c.1 hmem).1, (hsizes c.1 hmem).2, htried c hc⟩
  · rw [sendBulkUpdate]
    rcases hend : (sendChunks post (chunksOf items) 0 s).2 with (i | _) | n
    · rw [hend] at hresult
      obtain ⟨k, hindex, hstops⟩ := hresult
      obtain ⟨⟨i', chunk⟩, hk, rfl⟩ := Option.map_eq_some_iff.mp hindex
      exact ⟨k, getElem?_chunksOf hk, hstops⟩
    · rw [hend] at hresult
      exact hresult
    · rw [hend] at hresult
      obtain ⟨hall, hacks, hsum⟩ := hresult
      -- All the slices have been sent, so nothing is left.
      have hnone : later = [] := by simpa [hall] using hlater
      exact ⟨by rw [hnone, List.flatten_nil], hacks, by rw [hsum, Nat.zero_add]⟩

end Update

end Requests

end AapGateway.Migration.Resources
