/-
**Deadlines of notices.**

A notice is put in the tray with a deadline that lies ahead, since no lifetime that valid settings
or outcomes ask for is zero.  It stays there under that deadline until it goes, and taking away what
is due takes away just the notices whose deadline has come.

Main definitions:

* `TorusRobot.Session.Lasting` — notices put in the tray live for a while.

Main results:

* `TorusRobot.Session.Lasting.start`, `TorusRobot.Session.Lasting.run` — so it is in sessions that
  valid settings allow;
* `TorusRobot.Session.Lasting.lifetime_pos` — no notice is due when it is put in the tray;
* `TorusRobot.Session.mem_active_operation` — where the notices on show come from;
* `TorusRobot.Session.mem_expire_iff`, `TorusRobot.Session.expire_ne_nil` — what is taken away when
  it is due.
-/
import TorusRobot.Proofs.Dispatch.Rounds
import TorusRobot.Proofs.Session.Lapsing
import TorusRobot.Proofs.Session.Renewal

set_option relaxedAutoImplicit false
set_option autoImplicit false

namespace TorusRobot

/-! ### Lifetimes -/

/-- What a verdict asks for, it asks for a while. -/
theorem Verdict.lifetime_pos {v : Verdict} {notice : Notice} {n : Nat} (h : v.notice = some notice)
    (hn : notice.lifetime = some n) : 0 < n := by
  cases v <;> simp only [Verdict.notice, Option.some.injEq, reduceCtorEq] at h <;> subst h <;>
    simp only [Option.some.injEq, reduceCtorEq] at hn <;> subst hn <;> decide

/-- An outcome of a command is worded by a verdict. -/
theorem World.exists_verdict {w : World} {c : Command} {o : Outcome} (h : (w.apply c).1 = some o) :
    ∃ v : Verdict, o.notice = v.notice := by
  cases hc : c.isEmpty with
  | true =>
      rw [World.apply_of_isEmpty hc] at h
      cases h
  | false =>
      rw [World.apply_of_not_isEmpty hc] at h
      obtain rfl := Option.some.inj h
      exact ⟨(w.judge c).1, rfl⟩

namespace Session

/-- The tray gives notices the lifetime that the settings say, and neither that nor the lifetime of
the notice of a reset is zero. -/
structure Lasting (s : Session) : Prop where
  lifetime_eq : s.tray.lifetime = s.settings.noticeLifetime
  notice : 0 < s.settings.noticeLifetime
  reset : 0 < s.settings.resetLifetime

namespace Lasting

variable {s : Session}

theorem start {A : Settings} (h : Session.start A = .ok s) : Lasting s := by
  obtain ⟨hcheck, rfl⟩ := start_eq_ok_iff.1 h
  obtain ⟨-, -, -, hnotice, hreset⟩ := Settings.check_eq_ok_iff.1 hcheck
  exact ⟨rfl, Nat.pos_of_ne_zero hnotice, Nat.pos_of_ne_zero hreset⟩

theorem run (h : Lasting s) (ops : List Operation) : Lasting (s.run ops) where
  lifetime_eq := by
    rw [(static_run s ops).2.1, settings_run]
    exact h.lifetime_eq
  notice := by
    rw [settings_run]
    exact h.notice
  reset := by
    rw [settings_run]
    exact h.reset

/-- **No notice is due when it is put in the tray.** -/
theorem lifetime_pos (h : Lasting s) {op : Operation} {notice : Notice}
    (hn : s.notice? op = some notice) : 0 < notice.lifetime.getD s.tray.lifetime := by
  cases hl : notice.lifetime with
  | none =>
      rw [Option.getD_none, h.lifetime_eq]
      exact h.notice
  | some n =>
      rw [Option.getD_some]
      cases op with
      | submit line now =>
          rw [notice?, submit_snd, Option.bind_eq_some_iff] at hn
          obtain ⟨o, ho, hnotice⟩ := hn
          obtain ⟨v, hv⟩ := World.exists_verdict ho
          exact Verdict.lifetime_pos (hv.symm.trans hnotice) hl
      | reset now =>
          obtain rfl := Option.some.inj hn
          obtain rfl := Option.some.inj hl
          exact h.reset
      | dismiss id => cases hn
      | expire now => cases hn

end Lasting

/-! ### Where notices come from -/

variable {s : Session} {e : Tray.Entry} {now : Nat}

theorem mem_active_notify {notice : Notice} (h : e ∈ (s.notify notice now).1.tray.active) :
    e ∈ s.tray.active ∨ e = ⟨s.tray.nextId, notice, s.tray.deadline notice now⟩ := by
  rw [notify, Tray.active_push, List.mem_append, List.mem_singleton] at h
  exact h.imp List.mem_of_mem_drop id

/-- A notice on show after a request was on show before it, or it was put there for the request,
under the next number and with its whole lifetime to go. -/
theorem mem_active_operation {r : Request}
    (h : e ∈ (s.perform (r.operation now)).1.tray.active) :
    e ∈ s.tray.active ∨ ∃ notice, s.notice? (r.operation now) = some notice ∧
      e = ⟨s.tray.nextId, notice, now + notice.lifetime.getD s.tray.lifetime⟩ := by
  cases r with
  | submit line =>
      rw [Request.operation, perform_submit] at h
      cases ho : (s.submit line now).2 with
      | none =>
          rw [submit_of_none ho] at h
          exact .inl h
      | some o =>
          rw [submit_of_some ho] at h
          cases hn : o.notice with
          | none =>
              simp only [absorb, hn] at h
              exact .inl h
          | some notice =>
              simp only [absorb, hn] at h
              refine (mem_active_notify h).imp id fun he => ⟨notice, ?_, he⟩
              rw [Request.operation, notice?, ho, Option.bind_some, hn]
  | reset =>
      rw [Request.operation, perform_reset] at h
      rcases mem_active_notify h with hold | he
      · cases hold
      · exact .inr ⟨s.resetNotice, rfl, he⟩
  | dismiss id =>
      rw [Request.operation, perform_dismiss, dismiss, Tray.active_dismiss] at h
      exact .inl (List.mem_filter.1 h).1

/-- The notice of an outcome is on show after the line. -/
theorem mem_active_submit {line : String} {o : Outcome} {notice : Notice}
    (ho : (s.submit line now).2 = some o) (hn : o.notice = some notice) :
    ⟨s.tray.nextId, notice, now + notice.lifetime.getD s.tray.lifetime⟩ ∈
      (s.submit line now).1.tray.active := by
  rw [submit_of_some ho]
  simp only [absorb, hn, notify, Tray.active_push, List.mem_append, List.mem_singleton]
  exact .inr rfl

/-! ### Taking away what is due -/

/-- Just the notices are taken away whose deadline has come. -/
theorem mem_expire_iff {id : Nat} :
    id ∈ (s.expire now).2 ↔ ∃ e ∈ s.tray.active, e.id = id ∧ e.deadline ≤ now :=
  Tray.mem_expire_iff

theorem mem_active_expire_iff :
    e ∈ (s.expire now).1.tray.active ↔ e ∈ s.tray.active ∧ now < e.deadline :=
  Tray.mem_active_expire_iff

/-- If the earliest deadline has come, something is taken away. -/
theorem expire_ne_nil {d : Nat} (h : s.tray.nextDeadline? = some d) (hd : d ≤ now) :
    (s.expire now).2 ≠ [] :=
  s.tray.punctual.since d now h hd

end Session

end TorusRobot
