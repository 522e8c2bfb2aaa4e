import Mathlib

/-!
# Bulk updates of an upstream service

`_send_bulk_update` sends the items in chunks. Each chunk is tried up to three times: transient
HTTP errors, network errors and answers that are no JSON are tried again, everything else is a
permanent failure and ends the migration.

The service is a state and a function that answers a request. An answer that does not arrive
because the process ends is `Response.interrupted`.

## Main definitions

* `Response`: what comes back from a request;
* `tryBulkUpdateOnce`: what an attempt makes of it;
* `sendBulkUpdateChunk` and `sendBulkUpdate`.

## Main results

* `sendBulkUpdate_inv`: what every request preserves, the whole update preserves;
* `sendBulkUpdate_progress`: an update that counts items has been acknowledged some.
-/

namespace AapGateway.Migration.Resources

/-- The body of an answer. `updated` is the count of the acknowledged items. -/
inductive Body where
  | notJson
  | notDict
  | dict (updated : ℕ)
  deriving DecidableEq, Repr

/-- What comes back from a request. -/
inductive Response where
  /-- `HTTPError`, with the status of its response if there is one. -/
  | httpError (status : Option ℕ)
  /-- Another `RequestException`. -/
  | requestException
  | reply (status : ℕ) (body : Body)
  /-- The process ends before the answer. -/
  | interrupted
  deriving DecidableEq, Repr

/-- `MAX_BULK_CHUNK_SIZE`. -/
def maxBulkChunkSize : ℕ := 1000

/-- `MAX_TRANSIENT_RETRIES`. -/
def maxTransientRetries : ℕ := 3

/-- `TRANSIENT_STATUS_CODES`. -/
def transientStatusCodes : List ℕ := [502, 503, 504]

/-- The result of an attempt: `_RETRY_SENTINEL`, `_PERMANENT_FAILURE` or the parsed answer. -/
inductive Attempt where
  | retrySentinel
  | permanentFailure
  | interrupted
  | data (body : Body)
  deriving DecidableEq, Repr

/-- `_should_retry`. -/
def shouldRetry (attempt : ℕ) : Bool :=
  attempt < maxTransientRetries - 1

/-- The result of an attempt that may be tried again. -/
def retryOrFail (attempt : ℕ) : Attempt :=
  if shouldRetry attempt then .retrySentinel else .permanentFailure

/-- `_handle_http_error`. -/
def handleHttpError (status : Option ℕ) (attempt : ℕ) : Attempt :=
  match status with
  | none => .permanentFailure
  | some status =>
    if status ∈ transientStatusCodes then retryOrFail attempt else .permanentFailure

/-- `_try_bulk_update_once`, from the response on. -/
def tryBulkUpdateOnce (response : Response) (attempt : ℕ) : Attempt :=
  match response with
  | .httpError status => handleHttpError status attempt
  | .requestException => retryOrFail attempt
  | .interrupted => .interrupted
  | .reply status body =>
    if status ∈ transientStatusCodes then retryOrFail attempt
    else if status ≠ 200 then .permanentFailure
    else
      match body with
      | .notJson => retryOrFail attempt
      | body => .data body

/-- `_process_bulk_response`. -/
def processBulkResponse : Body → ℕ
  | .dict updated => updated
  | _ => 0

/-- The result of a chunk. -/
inductive ChunkResult where
  | permanentFailure
  | interrupted
  | updated (n : ℕ)
  deriving DecidableEq, Repr

/-- Why an update raises. -/
inductive BulkError where
  /-- The permanent failure of the chunk at the index. -/
  | permanentFailure (index : ℕ)
  | interrupted
  deriving DecidableEq, Repr

section Send

variable {σ β : Type} (post : σ → List β → σ × Response)

/-- The attempts that remain for a chunk. -/
def attempts (chunk : List β) : ℕ → ℕ → σ → σ × ChunkResult
  | 0, _, s => (s, .permanentFailure)
  | remaining + 1, attempt, s =>
    match post s chunk with
    | (s', response) =>
      match tryBulkUpdateOnce response attempt with
      | .retrySentinel => attempts chunk remaining (attempt + 1) s'
      | .permanentFailure => (s', .permanentFailure)
      | .interrupted => (s', .interrupted)
      | .data body => (s', .updated (processBulkResponse body))

/-- `_send_bulk_update_chunk`. -/
def sendBulkUpdateChunk (chunk : List β) (s : σ) : σ × ChunkResult :=
  attempts post chunk maxTransientRetries 0 s

/-- The slices of the items, with their indices. -/
def chunksOf (items : List β) : List (ℕ × List β) :=
  (List.range ((items.length + maxBulkChunkSize - 1) / maxBulkChunkSize)).map fun k =>
    (k * maxBulkChunkSize, (items.drop (k * maxBulkChunkSize)).take maxBulkChunkSize)

/-- The loop over the slices, with the total so far. -/
def sendChunks : List (ℕ × List β) → ℕ → σ → σ × Except BulkError ℕ
  | [], total, s => (s, .ok total)
  | (i, chunk) :: chunks, total, s =>
    match sendBulkUpdateChunk post chunk s with
    | (s', .permanentFailure) => (s', .error (.permanentFailure i))
    | (s', .interrupted) => (s', .error .interrupted)
    | (s', .updated n) => sendChunks chunks (total + n) s'

/-- `_send_bulk_update`. -/
def sendBulkUpdate (items : List β) (s : σ) : σ × Except BulkError ℕ :=
  sendChunks post (chunksOf items) 0 s

end Send

section Specs

variable {σ β : Type} {post : σ → List β → σ × Response} {items : List β}

/-- The slices are made of the items. -/
theorem mem_of_mem_chunksOf {i : ℕ} {chunk : List β} (h : (i, chunk) ∈ chunksOf items) {b : β}
    (hb : b ∈ chunk) : b ∈ items := by
  simp only [chunksOf, List.mem_map, Prod.mk.injEq] at h
  obtain ⟨k, -, -, rfl⟩ := h
  exact List.mem_of_mem_drop (List.mem_of_mem_take hb)

/-- Only the answers of status 200 count items. -/
theorem reply_of_data {response : Response} {attempt n : ℕ}
    (h : tryBulkUpdateOnce response attempt = .data (.dict n)) :
    response = .reply 200 (.dict n) := by
  have hretry : retryOrFail attempt ≠ .data (.dict n) := by
    unfold retryOrFail
    split <;> simp
  unfold tryBulkUpdateOnce handleHttpError at h
  split at h
  · split at h
    · cases h
    · split at h
      · exact absurd h hretry
      · cases h
  · exact absurd h hretry
  · cases h
  · next status body =>
      split_ifs at h with htransient hstatus
      · exact absurd h hretry
      · split at h
        · exact absurd h hretry
        · rw [not_not.mp hstatus]
          simpa using h

section Progress

-- `P` is what every request with these items preserves, and `Q` what a request that acknowledges
-- some of them achieves.
variable (P Q : σ → Prop)
  (hpost : ∀ s chunk, (∀ b ∈ chunk, b ∈ items) → P s → P (post s chunk).1)
  (hkeep : ∀ s chunk, (∀ b ∈ chunk, b ∈ items) → P s → Q s → Q (post s chunk).1)
  (hack : ∀ s chunk n, (∀ b ∈ chunk, b ∈ items) → P s →
    (post s chunk).2 = .reply 200 (.dict (n + 1)) → Q (post s chunk).1)

include hpost in
/-- The attempts for a chunk preserve what every request preserves. -/
theorem attempts_inv {chunk : List β} (hchunk : ∀ b ∈ chunk, b ∈ items) (remaining attempt : ℕ)
    {s : σ} (hs : P s) : P (attempts post chunk remaining attempt s).1 := by
  induction remaining generalizing attempt s with
  | zero => exact hs
  | succ remaining ih =>
      have hnext := hpost s chunk hchunk hs
      rw [attempts]
      cases hattempt : tryBulkUpdateOnce (post s chunk).2 attempt with
      | retrySentinel => simpa [hattempt] using ih (attempt + 1) hnext
      | permanentFailure => simpa [hattempt] using hnext
      | interrupted => simpa [hattempt] using hnext
      | data body => simpa [hattempt] using hnext

include hpost hkeep in
/-- The attempts for a chunk keep what has been achieved. -/
theorem attempts_keep {chunk : List β} (hchunk : ∀ b ∈ chunk, b ∈ items) (remaining attempt : ℕ)
    {s : σ} (hs : P s) (hq : Q s) : Q (attempts post chunk remaining attempt s).1 := by
  have hboth := attempts_inv (fun s => P s ∧ Q s)
    (fun s chunk hc h => ⟨hpost s chunk hc h.1, hkeep s chunk hc h.1 h.2⟩) hchunk remaining attempt
    ⟨hs, hq⟩
  exact hboth.2

include hpost hack in
/-- A chunk that counts items has been acknowledged some. -/
theorem attempts_progress {chunk : List β} (hchunk : ∀ b ∈ chunk, b ∈ items)
    (remaining attempt : ℕ) {s : σ} (hs : P s) {n : ℕ}
    (h : (attempts post chunk remaining attempt s).2 = .updated (n + 1)) :
    Q (attempts post chunk remaining attempt s).1 := by
  induction remaining generalizing attempt s with
  | zero => cases h
  | succ remaining ih =>
      have hnext := hpost s chunk hchunk hs
      rw [attempts] at h ⊢
      cases hattempt : tryBulkUpdateOnce (post s chunk).2 attempt with
      | retrySentinel =>
          simp only [hattempt] at h ⊢
          exact ih (attempt + 1) hnext h
      | permanentFailure => simp [hattempt] at h
      | interrupted => simp [hattempt] at h
      | data body =>
          simp only [hattempt, ChunkResult.updated.injEq] at h ⊢
          cases body with
          | notJson => simp [processBulkResponse] at h
          | notDict => simp [processBulkResponse] at h
          | dict updated =>
              simp only [processBulkResponse] at h
              subst h
              exact hack s chunk n hchunk hs (reply_of_data hattempt)

include hpost in
/-- What every request preserves, the whole update preserves. -/
theorem sendBulkUpdate_inv {s : σ} (hs : P s) : P (sendBulkUpdate post items s).1 := by
  have hchunks : ∀ (chunks : List (ℕ × List β)) (total : ℕ) (s : σ),
      (∀ c ∈ chunks, ∀ b ∈ c.2, b ∈ items) → P s → P (sendChunks post chunks total s).1 := by
    intro chunks
    induction chunks with
    | nil => exact fun total s _ hs => hs
    | cons c chunks ih =>
        intro total s hc hs
        have hnext : P (sendBulkUpdateChunk post c.2 s).1 :=
          attempts_inv P hpost (hc c List.mem_cons_self) _ _ hs
        rw [sendChunks]
        rcases hchunk : sendBulkUpdateChunk post c.2 s with ⟨s', _ | _ | n⟩
        · simpa [hchunk] using hnext
        · simpa [hchunk] using hnext
        · rw [hchunk] at hnext
          exact ih (total + n) s' (fun c' hc' => hc c' (List.mem_cons_of_mem c hc')) hnext
  exact hchunks _ 0 s (fun c hc b hb => mem_of_mem_chunksOf hc hb) hs

include hpost hkeep hack in
/-- An update that counts items has been acknowledged some. -/
theorem sendBulkUpdate_progress {s : σ} (hs : P s) {n : ℕ}
    (h : (sendBulkUpdate post items s).2 = .ok (n + 1)) : Q (sendBulkUpdate post items s).1 := by
  have hchunks : ∀ (chunks : List (ℕ × List β)) (total : ℕ) (s : σ),
      (∀ c ∈ chunks, ∀ b ∈ c.2, b ∈ items) → P s → (0 < total → Q s) →
      (sendChunks post chunks total s).2 = .ok (n + 1) → Q (sendChunks post chunks total s).1 := by
    intro chunks
    induction chunks with
    | nil =>
        intro total s _ _ hq h
        have htotal : total = n + 1 := Except.ok.inj h
        exact hq (by omega)
    | cons c chunks ih =>
        intro total s hc hs hq h
        have hitems := hc c List.mem_cons_self
        have hnext : P (sendBulkUpdateChunk post c.2 s).1 := attempts_inv P hpost hitems _ _ hs
        rw [sendChunks] at h ⊢
        rcases hchunk : sendBulkUpdateChunk post c.2 s with ⟨s', _ | _ | m⟩
        · simp [hchunk] at h
        · simp [hchunk] at h
        · simp only [hchunk] at h ⊢
          refine ih (total + m) s' (fun c' hc' => hc c' (List.mem_cons_of_mem c hc'))
            (by simpa [hchunk] using hnext) (fun hpos => ?_) h
          -- The count is positive because of this chunk or because of one before.
          have hs' : s' = (sendBulkUpdateChunk post c.2 s).1 := by rw [hchunk]
          rw [hs']
          cases m with
          | zero => exact attempts_keep P Q hpost hkeep hitems _ _ hs (hq hpos)
          | succ m =>
              exact attempts_progress P Q hpost hack hitems _ _ hs (n := m)
                (by rw [← sendBulkUpdateChunk, hchunk])
  exact hchunks _ 0 s (fun c hc b hb => mem_of_mem_chunksOf hc hb) hs
    (fun h => absurd h (by simp)) h

end Progress

end Specs

end AapGateway.Migration.Resources
