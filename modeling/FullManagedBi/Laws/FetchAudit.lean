import FullManagedBi.WebapiHistory.FetchAudit

/-!
# What one audited fetch does

`requestAndAudit_ends` is the one lemma about `requestAndAudit`: how the audit table grows, what the
fetch returns, and what it adds to the trace, each from how the handler ended. Everything about the
sync is derived from it.
-/

namespace FullManagedBi.WebapiHistory

open Lib

/-- The rows a fetch added to the audit table: they carry its key, and a `SUCCEEDED` one means
`success`. -/
def AuditsGrow (key : FetchKey) (success : Prop) (s s' : SyncState) : Prop :=
  ∃ added, s'.fetchAudits = s.fetchAudits ++ added ∧
    ∀ row ∈ added, row.fetchKey = key ∧ (row.resultStatus = .succeeded → success)

variable {key : FetchKey} {success : Prop}

theorem AuditsGrow.of_eq {s s' : SyncState} (h : s'.fetchAudits = s.fetchAudits) : AuditsGrow key success s s' :=
  ⟨[], by rw [h, List.append_nil], fun _ mem => absurd mem List.not_mem_nil⟩

theorem AuditsGrow.trans {s s' s'' : SyncState} (h : AuditsGrow key success s s')
    (h' : AuditsGrow key success s' s'') : AuditsGrow key success s s'' := by
  obtain ⟨first, eq, rows⟩ := h
  obtain ⟨second, eq', rows'⟩ := h'
  refine ⟨first ++ second, by rw [eq', eq, List.append_assoc], fun row mem => ?_⟩
  exact (List.mem_append.mp mem).elim (rows row) (rows' row)

variable {write : Write} {s : SyncState}

/-- `recordFetchAudit` adds its row, or nothing; a row is added only by a write that committed. -/
theorem recordFetchAudit_ends {row : FetchAudit} (h : row.resultStatus = .succeeded → write.commits = true → success) :
    Ends (recordFetchAudit write row) s fun r s' =>
      r = (match write.throws with | none => .ok () | some e => .error e) ∧
        s'.trace = s.trace ∧ AuditsGrow row.fetchKey success s s' := by
  have insert : ∀ committed : write.commits = true,
      AuditsGrow row.fetchKey success s
        (if s.fetchAudits.any (·.fetchKey = row.fetchKey) then s
          else { s with fetchAudits := s.fetchAudits ++ [row] }) := by
    intro committed
    split
    · exact AuditsGrow.of_eq rfl
    · refine ⟨[row], rfl, fun other mem => ?_⟩
      rw [List.mem_singleton.mp mem]
      exact ⟨rfl, fun status => h status committed⟩
  have trace : (if s.fetchAudits.any (·.fetchKey = row.fetchKey) then s
      else { s with fetchAudits := s.fetchAudits ++ [row] }).trace = s.trace := by
    split <;> rfl
  cases write with
  | done => exact ⟨rfl, trace, insert rfl⟩
  | lost e => exact ends_bind.mpr ⟨rfl, trace, insert rfl⟩
  | failed e => exact ⟨rfl, rfl, AuditsGrow.of_eq rfl⟩

theorem audit_ends {js : TextBuiltins} {row : FetchAudit} {P : Prop}
    (h : row.resultStatus = .succeeded → write.commits = true → P) : Ends (audit js write row) s fun r s' =>
      (r = .ok () ↔ write.throws = none) ∧ s'.trace = s.trace ∧
        AuditsGrow row.fetchKey P s s' := by
  refine ends_tryCatch.mpr ((recordFetchAudit_ends h).mono ?_)
  rintro r s' ⟨rfl, trace, grow⟩
  cases throws : write.throws with
  | none => exact ⟨⟨fun _ => rfl, fun _ => rfl⟩, trace, grow⟩
  | some e => exact ⟨⟨nofun, nofun⟩, trace, grow⟩

theorem resultStatus_eq_succeeded {rows rejected : Nat} : resultStatus rows rejected = .succeeded ↔ rejected = 0 := by
  unfold resultStatus
  split_ifs with both some
  · exact ⟨nofun, fun h => by omega⟩
  · exact ⟨nofun, fun h => by omega⟩
  · exact ⟨fun _ => by omega, fun _ => rfl⟩

theorem auditAccepted_ends {π : Type} {js : TextBuiltins} {output : Handled π} {P : Prop}
    (h : output.rejected = 0 → write.commits = true → P) : Ends (auditAccepted js key write output) s fun r s' =>
      s'.trace = s.trace ∧ AuditsGrow key P s s' ∧
        ((∃ total, r = .ok (.done output.accepted output.rejected total output.payload)) ∧
            write.throws = none ∨
          (∃ e, r = .error e) ∧ write.throws ≠ none) := by
  refine ends_bind.mpr ((audit_ends fun status => h (resultStatus_eq_succeeded.mp status)).mono ?_)
  rintro r s' ⟨returns, trace, grow⟩
  cases r with
  | ok _ => exact ⟨trace, grow, .inl ⟨⟨_, rfl⟩, returns.mp rfl⟩⟩
  | error e => exact ⟨trace, grow, .inr ⟨⟨e, rfl⟩, fun none => nomatch returns.mpr none⟩⟩

/-- The audit of a failure returns `ok: false`, unless its write throws; no row of it is a success. -/
theorem auditFailure_ends {π : Type} {js : TextBuiltins} {key : FetchKey} {write : Write}
    {error : Thrown} {P : Prop} {s : SyncState} : Ends (auditFailure (π := π) js key write error) s fun r s' =>
      s'.trace = s.trace ∧ AuditsGrow key P s s' ∧
        ((∃ code, r = .ok (.failed code)) ∨ ∃ e, r = .error e) := by
  refine ends_bind.mpr ((audit_ends (P := P) fun status => ResultStatus.noConfusion status).mono ?_)
  rintro r s' ⟨-, trace, grow⟩
  cases r with
  | ok _ => exact ⟨trace, grow, .inl ⟨_, rfl⟩⟩
  | error e => exact ⟨trace, grow, .inr ⟨e, rfl⟩⟩

/-- How a fetch ends, from what its transport and handler came to (`inner`): it returns the handler's
counts and payload exactly when they succeeded and the audit did. -/
def FetchEnd {π : Type} (audited : Write) (inner : Except Thrown (Handled π)) :
    Except Thrown (FetchResult π) → Prop
  | .ok (.done accepted rejected _ payload) =>
    audited.throws = none ∧ ∃ out, inner = .ok out ∧ out.accepted = accepted ∧
      out.rejected = rejected ∧ out.payload = payload
  | _ => ∀ out, inner = .ok out → audited.throws ≠ none

/-- What closes a fetch in the trace, where it returns. -/
def closingEvent {π : Type} (site : FetchSite) : Except Thrown (FetchResult π) → List SyncEvent
  | .ok r => [.fetched site r.errorCode]
  | .error _ => []

section Fetch

variable {β π : Type} {js : TextBuiltins} {site : FetchSite} {key : FetchKey} {reply : Reply β}
  {handle : β → Sync (Handled π)} {s : SyncState}

/-- **What `requestAndAudit` does**, from what the transport and the handler do. -/
theorem requestAndAudit_ends {K : Except Thrown (Handled π) → List SyncEvent → Prop}
    (handles : Ends (MonadExcept.ofExcept reply.body >>= handle) s fun r s₁ =>
      s₁.fetchAudits = s.fetchAudits ∧ K r s₁.trace) : Ends (requestAndAudit js site key reply handle) s fun r s' =>
      ∃ inner mid, K inner mid ∧ FetchEnd reply.audited inner r ∧
        s'.trace = mid ++ closingEvent site r ∧
        AuditsGrow key (∃ out, inner = .ok out ∧ out.rejected = 0 ∧ reply.audited.commits = true) s s' := by
  -- how the guarded part ends: as the fetch does, before the closing event
  let success (inner : Except Thrown (Handled π)) : Prop :=
    ∃ out, inner = .ok out ∧ out.rejected = 0 ∧ reply.audited.commits = true
  refine Ends.bind (Q := fun r s₂ => ∃ inner, K inner s₂.trace ∧
      FetchEnd reply.audited inner (.ok r) ∧ AuditsGrow key (success inner) s s₂)
    (Ends.mono (R := fun r s₂ => ∃ inner, K inner s₂.trace ∧
      FetchEnd reply.audited inner r ∧ AuditsGrow key (success inner) s s₂)
    (Ends.tryCatch (E := fun _ s₂ => ∃ inner, K inner s₂.trace ∧
      (∀ out, inner = .ok out → reply.audited.throws ≠ none) ∧
        AuditsGrow key (success inner) s s₂) ?_ ?_) ?_) ?_
  · rw [← bind_assoc, ends_bind]
    refine handles.mono fun inner s₁ ⟨same, known⟩ => ?_
    cases inner with
    | error e => exact ⟨.error e, known, nofun, .of_eq same⟩
    | ok out =>
      rw [post_ok]
      refine (auditAccepted_ends (P := success (.ok out))
        fun rejected committed => ⟨out, rfl, rejected, committed⟩).mono ?_
      rintro r s₂ ⟨trace, grow, ⟨⟨total, rfl⟩, none⟩ | ⟨⟨e, rfl⟩, throws⟩⟩
      · exact ⟨.ok out, trace ▸ known, ⟨none, out, rfl, rfl, rfl, rfl⟩,
          (AuditsGrow.of_eq same).trans grow⟩
      · exact ⟨.ok out, trace ▸ known, fun _ _ => throws, (AuditsGrow.of_eq same).trans grow⟩
  · rintro e s₂ ⟨inner, known, broke, grow⟩
    refine (auditFailure_ends (P := success inner)).mono ?_
    rintro r s₃ ⟨trace, grow', ⟨code, rfl⟩ | ⟨e', rfl⟩⟩
    · exact ⟨inner, trace ▸ known, broke, grow.trans grow'⟩
    · exact ⟨inner, trace ▸ known, broke, grow.trans grow'⟩
  · rintro (e | r) s₂ ⟨inner, known, ends, grow⟩
    · exact ⟨inner, s₂.trace, known, ends, (List.append_nil _).symm, grow⟩
    · exact ⟨inner, known, ends, grow⟩
  · rintro r s₂ ⟨inner, known, ends, grow⟩
    exact ends_bind.mpr ⟨inner, s₂.trace, known, ends, rfl, grow.trans (.of_eq rfl)⟩

end Fetch

end FullManagedBi.WebapiHistory
