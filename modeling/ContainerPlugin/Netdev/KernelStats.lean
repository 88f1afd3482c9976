import ContainerPlugin.Netdev.Netlink

/-!
# Statistics from the kernel

`netdev_get_kernel_stats` reads replies until a message ends them, and then it returns 0. It takes no
notice of what the messages were: an error message has no `NLM_F_MULTI` and ends the replies like any
other, so that 0 is returned with the counters of the last time.
-/

namespace ContainerPlugin.Netdev

open Loop

/-- What `recvmsg` returns: an error, or the number of bytes in a `buffer` of 4096. -/
inductive Reply where
  | failed
  | received (buffer : Buffer) (ret : ℕ) (hret : ret ≤ 4096)

/-- What the system calls return: whether the first three succeed, and the replies. -/
structure NetlinkEnv where
  socket : Bool
  bind : Bool
  sendmsg : Bool
  recvmsg : ℕ → Reply

/-- The loop over the messages of a reply; it takes at least one byte in every round. -/
def parseReply (buffer : Buffer) (ret : ℕ) (stats : NetdevStats) : NetdevStats × Bool :=
  (run (messageRound buffer) (ret + 1) ⟨0, ret, stats, false⟩).getD (stats, false)

/-- The number of replies that have been received, and the counters. -/
structure ReceiveLoop where
  received : ℕ
  stats : NetdevStats

/-- A round of the loop over the replies. It ends with what the function returns. -/
def receiveRound (recvmsg : ℕ → Reply) (st : ReceiveLoop) :
    ReceiveLoop ⊕ (ℤ × NetdevStats) :=
  match recvmsg st.received with
  | .failed => .inr (-1, st.stats)
  | .received buffer ret _ =>
    let (stats, multipartMsgEnd) := parseReply buffer ret st.stats
    if multipartMsgEnd then .inr (0, stats) else .inl ⟨st.received + 1, stats⟩

/-- `netdev_get_kernel_stats`, with fuel for the replies. -/
def netdevGetKernelStats (env : NetlinkEnv) (fuel : ℕ) (stats : NetdevStats) :
    Option (ℤ × NetdevStats) :=
  if !env.socket then some (-1, stats)
  else if !env.bind then some (-1, stats)
  else if !env.sendmsg then some (-1, stats)
  else run (receiveRound env.recvmsg) fuel ⟨0, stats⟩

/-! ## The replies -/

/-- One of the messages ends the reply. -/
def Reply.ends : Reply → Bool
  | .failed => false
  | .received buffer ret _ => (messages buffer ret).any (endsReply buffer)

/-- The counters of the attributes `IFLA_STATS` in messages `RTM_NEWLINK`. -/
def Reply.counters : Reply → List NetdevStats
  | .failed => []
  | .received buffer ret _ =>
    (linkAttributes buffer ret).map fun rta => rtnlLinkStats buffer (rtaData rta)

/-- Receiving goes on after the reply. -/
def Reply.GoesOn (reply : Reply) : Prop := reply ≠ .failed ∧ reply.ends = false

/-- The reply `n` is the last one. -/
structure EndsAt (recvmsg : ℕ → Reply) (n : ℕ) : Prop where
  goesOn : ∀ i < n, (recvmsg i).GoesOn
  ends : (recvmsg n).ends = true

/-- All counters in the first `n` replies. -/
def counters (recvmsg : ℕ → Reply) (n : ℕ) : List NetdevStats :=
  (List.range n).flatMap fun i => (recvmsg i).counters

/-- The request was sent. -/
def NetlinkEnv.opened (env : NetlinkEnv) : Bool := env.socket && env.bind && env.sendmsg

section Replies

variable {recvmsg : ℕ → Reply} {stats : NetdevStats} {n : ℕ}

theorem parseReply_eq (buffer : Buffer) {ret : ℕ} (hret : ret ≤ 4096) (stats : NetdevStats) :
    parseReply buffer ret stats =
      (((Reply.received buffer ret hret).counters.getLast?).getD stats,
        (Reply.received buffer ret hret).ends) := by
  obtain ⟨rounds, hlength, hwalk⟩ := exists_bufferWalk buffer hret stats false
  rw [parseReply, hwalk.runs.run_eq hlength, Option.getD_some, foldl_messageBody hret,
    Bool.false_or, Reply.counters, List.getLast?_map]
  rfl

theorem EndsAt.unique {m : ℕ} (h : EndsAt recvmsg n) (h' : EndsAt recvmsg m) : n = m := by
  apply Nat.le_antisymm
  · by_contra hlt
    have hgo := (h.goesOn m (Nat.lt_of_not_le hlt)).2
    rw [h'.ends] at hgo
    cases hgo
  · by_contra hlt
    have hgo := (h'.goesOn n (Nat.lt_of_not_le hlt)).2
    rw [h.ends] at hgo
    cases hgo

theorem getLast?_counters_succ (recvmsg : ℕ → Reply) (n : ℕ) (stats : NetdevStats) :
    ((counters recvmsg (n + 1)).getLast?).getD stats =
      ((recvmsg n).counters.getLast?).getD (((counters recvmsg n).getLast?).getD stats) := by
  rw [counters, List.range_succ, List.flatMap_append, List.flatMap_singleton, List.getLast?_append]
  cases (recvmsg n).counters.getLast? with
  | none => rfl
  | some last => rfl

/-- The replies so far were no end, and the counters are the last ones in them. -/
structure ReceiveLoop.Inv (recvmsg : ℕ → Reply) (stats : NetdevStats) (st : ReceiveLoop) : Prop where
  goesOn : ∀ i < st.received, (recvmsg i).GoesOn
  stats : st.stats = ((counters recvmsg st.received).getLast?).getD stats

/-- The counters after a reply. -/
theorem receiveRound_received {st : ReceiveLoop} (h : recvmsg st.received ≠ .failed) :
    receiveRound recvmsg st =
      let stats := ((recvmsg st.received).counters.getLast?).getD st.stats
      if (recvmsg st.received).ends then .inr (0, stats) else .inl ⟨st.received + 1, stats⟩ := by
  rw [receiveRound]
  cases hreply : recvmsg st.received with
  | failed => exact absurd hreply h
  | received buffer ret hret => simp only [parseReply_eq buffer hret]

/-- The loop goes on after a reply that is not the last one. -/
theorem ReceiveLoop.Inv.next {st st' : ReceiveLoop} (h : st.Inv recvmsg stats)
    (hround : receiveRound recvmsg st = .inl st') :
    (recvmsg st.received).GoesOn ∧ st'.received = st.received + 1 ∧ st'.Inv recvmsg stats := by
  by_cases hfailed : recvmsg st.received = .failed
  · rw [receiveRound, hfailed] at hround
    cases hround
  rw [receiveRound_received hfailed] at hround
  cases hends : (recvmsg st.received).ends with
  | true =>
    rw [hends] at hround
    cases hround
  | false =>
    rw [hends] at hround
    cases hround
    have hgo : (recvmsg st.received).GoesOn := ⟨hfailed, hends⟩
    refine ⟨hgo, rfl, fun i hi => ?_, ?_⟩
    · rcases Nat.lt_succ_iff_lt_or_eq.mp hi with hi | rfl
      · exact h.goesOn i hi
      · exact hgo
    · rw [getLast?_counters_succ, ← h.stats]

/-- The loop ends with an error, or with the last reply. -/
theorem ReceiveLoop.Inv.last {st : ReceiveLoop} {result : ℤ × NetdevStats}
    (h : st.Inv recvmsg stats) (hround : receiveRound recvmsg st = .inr result) :
    (recvmsg st.received = .failed ∧ result.1 = -1) ∨ EndsAt recvmsg st.received ∧
      result = (0, ((counters recvmsg (st.received + 1)).getLast?).getD stats) := by
  by_cases hfailed : recvmsg st.received = .failed
  · rw [receiveRound, hfailed] at hround
    cases hround
    exact .inl ⟨hfailed, rfl⟩
  rw [receiveRound_received hfailed] at hround
  cases hends : (recvmsg st.received).ends with
  | true =>
    rw [hends] at hround
    cases hround
    rw [getLast?_counters_succ, ← h.stats]
    exact .inr ⟨⟨h.goesOn, hends⟩, rfl⟩
  | false =>
    rw [hends] at hround
    cases hround

theorem inv_start (recvmsg : ℕ → Reply) (stats : NetdevStats) :
    ReceiveLoop.Inv recvmsg stats ⟨0, stats⟩ := ⟨nofun, rfl⟩

/-- What the loop over the replies returns. -/
theorem receive_result {rounds : List ReceiveLoop} {result : ℤ × NetdevStats}
    (hruns : Runs (receiveRound recvmsg) ⟨0, stats⟩ rounds result) :
    result.1 = -1 ∨ ∃ n, EndsAt recvmsg n ∧
      result = (0, ((counters recvmsg (n + 1)).getLast?).getD stats) := by
  have hinv := hruns.forall_rounds (I := ReceiveLoop.Inv recvmsg stats)
    (fun _ _ h hround => (h.next hround).2.2) (inv_start recvmsg stats)
  obtain ⟨st, hst, hround⟩ := hruns.exists_last
  obtain ⟨-, hfailed⟩ | hlast := (hinv st hst).last hround
  · exact .inl hfailed
  · exact .inr ⟨_, hlast⟩

/-- The loop comes to the last reply. -/
theorem EndsAt.exists_runs (h : EndsAt recvmsg n) (stats : NetdevStats) :
    ∃ rounds, Runs (receiveRound recvmsg) ⟨0, stats⟩ rounds
      (0, ((counters recvmsg (n + 1)).getLast?).getD stats) := by
  have hstep : ∀ st st' : ReceiveLoop, st.Inv recvmsg stats ∧ st.received ≤ n →
      receiveRound recvmsg st = .inl st' →
      (st'.Inv recvmsg stats ∧ st'.received ≤ n) ∧ n - st'.received < n - st.received := by
    rintro st st' ⟨hinv, hle⟩ hround
    obtain ⟨hgo, hreceived, hinv'⟩ := hinv.next hround
    have hne : st.received ≠ n := by
      intro heq
      rw [heq] at hgo
      exact Bool.false_ne_true (hgo.2.symm.trans h.ends)
    exact ⟨⟨hinv', by omega⟩, by omega⟩
  have hstart := inv_start recvmsg stats
  obtain ⟨rounds, result, hruns, -⟩ := Loop.exists_runs (fun st : ReceiveLoop => n - st.received)
    hstep ⟨hstart, Nat.zero_le n⟩
  have hrounds := hruns.forall_rounds (fun st st' hst hround => (hstep st st' hst hround).1)
    ⟨hstart, Nat.zero_le n⟩
  obtain ⟨st, hst, hround⟩ := hruns.exists_last
  obtain ⟨hinv, hle⟩ := hrounds st hst
  obtain ⟨hfailed, -⟩ | ⟨hends, hresult⟩ := hinv.last hround
  · rcases Nat.lt_or_eq_of_le hle with hlt | heq
    · exact absurd hfailed (h.goesOn _ hlt).1
    · have hends := h.ends
      rw [← heq, hfailed] at hends
      cases hends
  · rw [h.unique hends, ← hresult]
    exact ⟨rounds, hruns⟩

/-! ## Results -/

/-- If the function returns 0, then it has met counters and the last ones are in `stats`; it returns
nothing else but -1. -/
def FreshIfZero (env : NetlinkEnv) (stats : NetdevStats) : Prop :=
  ∀ ret stats', Yields (netdevGetKernelStats env · stats) (ret, stats') →
    (ret = 0 → ∃ n, EndsAt env.recvmsg n ∧
      (counters env.recvmsg (n + 1)).getLast? = some stats') ∧ (ret ≠ 0 → ret = -1)

theorem counters_ne_nil_iff : counters recvmsg (n + 1) ≠ [] ↔ ∃ i ≤ n, (recvmsg i).counters ≠ [] := by
  simp only [counters, ne_eq, List.flatMap_eq_nil_iff, List.mem_range, Nat.lt_succ_iff, not_forall,
    exists_prop]

theorem netdevGetKernelStats_opened {env : NetlinkEnv} (h : env.opened = true) (fuel : ℕ)
    (stats : NetdevStats) :
    netdevGetKernelStats env fuel stats = run (receiveRound env.recvmsg) fuel ⟨0, stats⟩ := by
  rw [NetlinkEnv.opened, Bool.and_eq_true, Bool.and_eq_true] at h
  obtain ⟨⟨hsocket, hbind⟩, hsendmsg⟩ := h
  rw [netdevGetKernelStats, hsocket, hbind, hsendmsg]
  rfl

theorem netdevGetKernelStats_not_opened {env : NetlinkEnv} (h : env.opened = false) (fuel : ℕ)
    (stats : NetdevStats) : netdevGetKernelStats env fuel stats = some (-1, stats) := by
  rw [netdevGetKernelStats]
  cases hsocket : env.socket with
  | false => rfl
  | true =>
    cases hbind : env.bind with
    | false => rfl
    | true =>
      cases hsendmsg : env.sendmsg with
      | false => rfl
      | true =>
        rw [NetlinkEnv.opened, hsocket, hbind, hsendmsg] at h
        cases h

/-- A result of 0 means fresh counters if and only if counters come in one of the replies up to the
last one. -/
theorem kernel_stats_fresh_iff (env : NetlinkEnv) (stats : NetdevStats) :
    FreshIfZero env stats ↔ (env.opened = true → ∀ n, EndsAt env.recvmsg n →
      ∃ i ≤ n, (env.recvmsg i).counters ≠ []) := by
  constructor
  · intro hfresh hopened n hends
    obtain ⟨rounds, hruns⟩ := hends.exists_runs stats
    have hyields : Yields (netdevGetKernelStats env · stats)
        (0, ((counters env.recvmsg (n + 1)).getLast?).getD stats) := by
      simp only [netdevGetKernelStats_opened hopened]
      exact hruns.yields
    obtain ⟨m, hm, hlast⟩ := (hfresh _ _ hyields).1 rfl
    rw [hm.unique hends] at hlast
    rw [← counters_ne_nil_iff]
    intro hnil
    rw [hnil] at hlast
    cases hlast
  · intro hcond ret stats' hyields
    cases hopened : env.opened with
    | false =>
      simp only [netdevGetKernelStats_not_opened hopened] at hyields
      cases (Yields.some _).unique hyields
      exact ⟨nofun, fun _ => rfl⟩
    | true =>
      simp only [netdevGetKernelStats_opened hopened] at hyields
      obtain ⟨fuel, hfuel⟩ := hyields
      obtain ⟨rounds, hruns, -⟩ := run_eq_some_iff.mp (hfuel fuel (Nat.le_refl fuel))
      obtain hminus | ⟨n, hends, hresult⟩ := receive_result hruns
      · simp only [] at hminus
        subst hminus
        exact ⟨nofun, fun _ => rfl⟩
      · cases hresult
        refine ⟨fun _ => ⟨n, hends, ?_⟩, fun hne => absurd rfl hne⟩
        have hne := counters_ne_nil_iff.mpr (hcond hopened n hends)
        rw [List.getLast?_eq_some_getLast hne, Option.getD_some]

/-- `NLMSG_ERROR` with the error `ENODEV`, as for an unknown interface. -/
def errorMessage : List UInt8 :=
  [36, 0, 0, 0, 2, 0, 0, 0] ++ List.replicate 8 0 ++ [237, 255, 255, 255] ++ List.replicate 16 0

/-- An error message ends the replies, and 0 is returned without any counters. -/
theorem error_reply_returns_zero :
    ¬ ∀ (env : NetlinkEnv) (stats : NetdevStats), FreshIfZero env stats := by
  intro h
  let reply : Reply := .received (bufferOf errorMessage) 36 (by decide)
  have hends : EndsAt (fun _ => reply) 0 := ⟨nofun, by decide +kernel⟩
  have hnone : reply.counters = [] := by decide +kernel
  obtain ⟨rounds, hruns⟩ := hends.exists_runs ⟨0, 0, 0, 0, 0, 0, 0, 0, 0, 0, 0⟩
  obtain ⟨n, -, hlast⟩ := (h ⟨true, true, true, fun _ => reply⟩ _ _ _ hruns.yields).1 rfl
  rw [counters, List.flatMap_eq_nil_iff.mpr fun _ _ => hnone] at hlast
  cases hlast

end Replies

end ContainerPlugin.Netdev
