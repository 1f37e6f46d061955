import Mathlib.Data.List.Perm.Subperm
import Promptline.Proofs.History.Backing
import Promptline.Proofs.Shell.Incidents
import Promptline.Proofs.Shell.Whereabouts

/-! A `.sync` that succeeds says how many records are new in view.  It says so by comparing two
lengths, which is right since every record of the old view is in the store and so in the new view. -/

namespace Promptline.Store

/-- The records of `new` with numbers that no record of `old` has. -/
def gained (old new : List Record) : List Record :=
  new.filter fun r => r.seq ∉ old.map Record.seq

variable {old new : List Record}

theorem Ascending.nodup_seq (h : Ascending old) : (old.map Record.seq).Nodup := by
  refine List.pairwise_map.mpr (h.imp fun hlt heq => ?_)
  exact absurd hlt (heq ▸ Int.lt_irrefl _)

/-- Records of which none gets lost grow by those that they gain. -/
theorem length_gained (hold : Ascending old) (hnew : Ascending new)
    (kept : ∀ r ∈ old, r.seq ∈ new.map Record.seq) :
    new.length = old.length + (gained old new).length := by
  let seen := new.filter fun r => r.seq ∈ old.map Record.seq
  have numbers : (seen.map Record.seq).Perm (old.map Record.seq) := by
    refine (List.perm_ext_iff_of_nodup (hnew.filter _).nodup_seq hold.nodup_seq).mpr fun n => ?_
    constructor
    · intro hn
      obtain ⟨r, hr, rfl⟩ := List.mem_map.mp hn
      exact of_decide_eq_true (List.mem_filter.mp hr).2
    · intro hn
      obtain ⟨r, hr, rfl⟩ := List.mem_map.mp hn
      obtain ⟨r', hr', hseq⟩ := List.mem_map.mp (kept r hr)
      refine List.mem_map.mpr ⟨r', List.mem_filter.mpr ⟨hr', ?_⟩, hseq⟩
      exact decide_eq_true (hseq ▸ hn)
  have split := List.length_eq_length_filter_add (l := new) fun r => r.seq ∈ old.map Record.seq
  have lengths : seen.length = old.length := by simpa using numbers.length_eq
  have rest : new.filter (fun r => !decide (r.seq ∈ old.map Record.seq)) = gained old new :=
    List.filter_congr fun r _ => (decide_not ..).symm
  rw [split, rest]
  exact congrArg (· + _) lengths

end Promptline.Store

namespace Promptline.History

open Promptline.Store

/-- A new view has all records that the store held when the number was read. -/
theorem View.renew_eq_ok {s s' : Shared} {v v' : View} (h : s.backend.Orderly)
    (counted : s.backend.Counted) (hrenew : v.renew s = (.ok v', s')) :
    v'.all = s.backend.records := by
  unfold renew at hrenew
  split at hrenew
  · cases hrenew
  next read loaded hload =>
  cases hrenew
  unfold load at hload
  split at hload
  · cases hload
  next upto announced hnext =>
  obtain ⟨rfl, grows⟩ := Shared.next_eq_ok h hnext
  obtain ⟨rfl, -⟩ := collect_eq_ok grows.orderly hload
  rw [all, List.append_nil, grows.between_bound h counted]

end Promptline.History

namespace Promptline.Console

open Promptline.History Promptline.Store

/-- What `.sync` says if `n` records are new. -/
def syncReply (n : Nat) : String :=
  let noun := if n = 1 then "command" else "commands"
  s!"History synced ({n} new {noun})"

variable {b : Bench} {v : View} {shared : Shared} {f : Failure}

theorem sync_of_ok {n : Nat} (hrenew : b.view.renew b.shared = (.ok v, shared))
    (hlength : v.all.length = b.view.all.length + n) :
    sync b =
      { reply := .ok (.text (syncReply n)), reloads := true
        bench := { b with view := v, shared } } := by
  have added : (v.all.length : Int) - b.view.all.length = n := by omega
  have one : (n : Int) = 1 ↔ n = 1 := by omega
  have digits : toString (n : Int) = toString n := rfl
  have noun : (if (n : Int) = 1 then "command" else "commands") =
      if n = 1 then "command" else "commands" := if_congr one rfl rfl
  unfold sync
  rw [hrenew]
  dsimp only
  rw [added, noun, digits]
  dsimp only [syncReply]

theorem sync_of_error (hrenew : b.view.renew b.shared = (.error f, shared)) :
    (sync b).reloads = false ∧ (sync b).printed = "" ∧ (sync b).bench = { b with shared } ∧
      (sync b).reply = match f with
        | .store e => .ok (.text ("[red]Error:[/red] " ++ Markup.escaped e.message))
        | f => .error (.failure f) := by
  simp only [sync, hrenew]
  cases f <;> exact ⟨rfl, rfl, rfl, rfl⟩

end Promptline.Console

namespace Promptline.History.Sharing

open Promptline.Store

variable {w : Sharing} {low : Int} {i : Nat} {v v' : View} {shared : Shared} {quiet : List Act}

/-- A record that a session has in view has its number in every view that comes after it. -/
theorem Whole.kept_renew (h : w.Whole low) (hv : (w.sessions i).view = some v)
    (hrenew : v.renew w.shared = (.ok v', shared)) {r : Record} (hr : r ∈ v.all) :
    ∃ r' ∈ v'.all, r'.seq = r.seq ∧ r'.text = r.text := by
  obtain ⟨⟨r', hr', records⟩, -⟩ := h.backs i v hv r hr
  rw [View.renew_eq_ok h.ordered.orderly h.counted hrenew]
  exact ⟨r', hr', records.seq, records.text⟩

/-- The length of a new view tells how many records are new in it. -/
theorem Whole.length_renew (h : w.Whole low) (hv : (w.sessions i).view = some v)
    (hrenew : v.renew w.shared = (.ok v', shared)) :
    v'.all.length = v.all.length + (gained v.all v'.all).length := by
  refine length_gained ((h.ordered.sessions i).ascending v hv) ?_ fun r hr => ?_
  · rw [View.renew_eq_ok h.ordered.orderly h.counted hrenew]
    exact h.ordered.orderly.ascending
  · obtain ⟨r', hr', hseq, -⟩ := h.kept_renew hv hrenew hr
    exact List.mem_map.mpr ⟨r', hr', hseq⟩

/-- What a session has had in view is in view when nobody removes a record. -/
theorem Whole.kept_run (h : w.Whole low) (kept : ∀ act ∈ quiet, act.removed? = none)
    (hi : w.sessions i = ⟨some v, none⟩) {u : View} (hu : ((w.run quiet).sessions i).view = some u)
    {r : Record} (hr : r ∈ v.all) : r.seq ∈ u.all.map Record.seq := by
  have hv : (w.sessions i).view = some v := by rw [hi]
  have keeps : (w.sessions i).Keeps r.seq r.draft := by
    refine ⟨⟨v, hv, r, hr, rfl, rfl, rfl⟩, fun upto hupto => ?_⟩
    rw [hi] at hupto
    cases hupto
  have undeleted : .delete r.seq ∉ quiet := fun hdelete => by cases kept _ hdelete
  obtain ⟨u', hu', r', hr', records⟩ :=
    (keeps_run h.ordered (h.backs i v hv r hr) undeleted keeps).seen
  obtain rfl := Option.some.inj (hu'.symm.trans hu)
  exact List.mem_map.mpr ⟨r', hr', records.seq⟩

/-- A view that is built anew without a break, as a row of acts. -/
theorem run_renew (free : (w.sessions i).building = none)
    (hrenew : v.renew w.shared = (.ok v', shared)) :
    w.run [.begin i, .finish i, .note shared.clock shared.journal] =
      w.put i ⟨some v', none⟩ shared := by
  unfold View.renew at hrenew
  split at hrenew
  · cases hrenew
  · next hload =>
    cases hrenew
    simp only [run, List.foldl_cons, List.foldl_nil, step, begin_finish free, hload]
    rfl

theorem Whole.renew (h : w.Whole low) (free : (w.sessions i).building = none)
    (hrenew : v.renew w.shared = (.ok v', shared)) :
    (w.put i ⟨some v', none⟩ shared).Whole low := by
  rw [← run_renew free hrenew]
  refine h.run (List.forall_mem_cons.mpr ⟨rfl, List.forall_mem_cons.mpr ⟨rfl, ?_⟩⟩)
  exact List.forall_mem_singleton.mpr rfl

/-- Nothing is new in view if nothing has come into the store. -/
theorem gained_eq_nil {old new : List Record} (h : ∀ r ∈ new, r.seq ∈ old.map Record.seq) :
    gained old new = [] :=
  List.filter_eq_nil_iff.mpr fun r hr => by simpa using h r hr

end Promptline.History.Sharing

namespace Promptline.Shell

open Promptline.Console Promptline.History Promptline.History.Sharing Promptline.Store

theorem resets_perform (s : Shell) (d : Deed) : (s.perform d).resets = s.resets := by
  unfold Shell.perform
  split <;> rfl

theorem resets_conclude (s : Shell) (out : Console.Outcome) :
    (s.conclude out).resets = s.resets := by
  have printed : (if out.printed = "" then s else s.perform (.page out.printed)).resets =
      s.resets := by
    split
    · rfl
    · exact resets_perform s _
  unfold Shell.conclude
  generalize (if out.printed = "" then s else s.perform (.page out.printed)) = t at printed ⊢
  dsimp only
  split
  · rw [resets_perform, printed]
  · exact printed
  · rw [← printed, Shell.stop]
    exact resets_perform t _
  · exact printed

section sync

variable {w : Sharing} {low : Int} {i : Nat} {s : Shell} {line : String} {v : View}
  {shared : Shared} {f : Failure}

theorem answer_of_sync (asks : DotCommand.read line = .sync) (b : Bench) :
    Console.answer line b = Console.sync b := by
  rw [Console.answer, asks]
  rfl

/-- The line editor gets its new history when the new view is in place. -/
theorem dotCommand_sync {n : Nat} (asks : DotCommand.read line = .sync)
    (hrenew : s.view.renew s.shared = (.ok v, shared))
    (hlength : v.all.length = s.view.all.length + n) :
    s.dotCommand line = (({ s with view := v, shared } : Shell).swapHistory).conclude
      (Console.answer line ⟨s.view, s.settings, s.shared⟩) := by
  have hout := answer_of_sync asks ⟨s.view, s.settings, s.shared⟩
  rw [sync_of_ok (b := ⟨s.view, s.settings, s.shared⟩) hrenew hlength] at hout
  rw [Shell.dotCommand, hout]
  rfl

theorem dotCommand_sync_error (asks : DotCommand.read line = .sync)
    (hrenew : s.view.renew s.shared = (.error f, shared)) :
    s.dotCommand line = ({ s with shared } : Shell).conclude
      (Console.answer line ⟨s.view, s.settings, s.shared⟩) := by
  have hout := answer_of_sync asks ⟨s.view, s.settings, s.shared⟩
  obtain ⟨hreloads, -, hbench, -⟩ :=
    sync_of_error (b := ⟨s.view, s.settings, s.shared⟩) hrenew
  rw [Shell.dotCommand, hout]
  simp only [hreloads, hbench, Bool.false_eq_true, if_false]

/-- What `.sync` says in the shell of a session. -/
theorem reply_sync (whole : w.Whole low) (idle : w.sessions i = ⟨some s.view, none⟩)
    (same : s.shared = w.shared) (asks : DotCommand.read line = .sync)
    (hrenew : s.view.renew s.shared = (.ok v, shared)) :
    (Console.answer line ⟨s.view, s.settings, s.shared⟩).reply =
      .ok (.text (syncReply (gained s.view.all v.all).length)) := by
  have hlength := whole.length_renew (by rw [idle]) (same ▸ hrenew)
  rw [answer_of_sync asks, sync_of_ok (b := ⟨s.view, s.settings, s.shared⟩) hrenew hlength]

/-- A session that has had all records of the store in view hears that none are new. -/
theorem reply_sync_again {quiet : List Act} {seen : View} (whole : w.Whole low)
    (hi : w.sessions i = ⟨some seen, none⟩) (kept : ∀ act ∈ quiet, act.removed? = none)
    (unchanged : (w.run quiet).shared.backend.records = seen.all)
    (idle : (w.run quiet).sessions i = ⟨some s.view, none⟩) (same : s.shared = (w.run quiet).shared)
    (asks : DotCommand.read line = .sync) (renews : (s.view.renew s.shared).1.isOk = true) :
    (Console.answer line ⟨s.view, s.settings, s.shared⟩).reply = .ok (.text (syncReply 0)) := by
  have whole' := whole.run kept
  cases hrenew : s.view.renew s.shared with
  | mk result shared =>
    rw [hrenew] at renews
    cases result with
    | error f => cases renews
    | ok v =>
      have nothing : gained s.view.all v.all = [] := by
        refine gained_eq_nil fun r hr => whole.kept_run kept hi (by rw [idle]) ?_
        rwa [View.renew_eq_ok whole'.ordered.orderly whole'.counted (same ▸ hrenew),
          unchanged] at hr
      rw [reply_sync whole' idle same asks hrenew, nothing]
      rfl

/-- How `.sync` fails in the shell of a session. -/
theorem reply_sync_error (reports : s.shared.backend.Reports)
    (gapless : s.shared.backend.Gapless low) (hlow : 0 ≤ low ∧ low ≤ 1)
    (asks : DotCommand.read line = .sync) (hrenew : s.view.renew s.shared = (.error f, shared)) :
    (∃ e, f = .store e ∧ (Console.answer line ⟨s.view, s.settings, s.shared⟩).reply =
        .ok (.text ("[red]Error:[/red] " ++ Markup.escaped e.message))) ∨
      0x8000000000000000 ≤ s.shared.backend.records.length + 1 := by
  obtain ⟨-, -, -, hreply⟩ := sync_of_error (b := ⟨s.view, s.settings, s.shared⟩) hrenew
  obtain ⟨e, rfl⟩ | ⟨-, spent⟩ := View.renew_fails reports hrenew
  · exact .inl ⟨e, rfl, by rw [answer_of_sync asks, hreply]⟩
  · exact .inr (spent.length_le gapless hlow)

end sync

/-- However sessions over a new store that lasts have taken turns while nobody has removed a record,
and whatever fails now.  If the shell of a session can build its view anew, `.sync` says how many
records are new in view, all records that were in view stay there, and the line editor gets one new
history, when the new view is in place.  A `.sync` before which nothing has come into the store
since says that none are new.  If the view cannot be built, `.sync` gives the error and all stays as
it is; only a store with nearly as many records as there are numbers fails in another way. -/
theorem sync_run {start : Shared} (isNew : start.backend.IsNew)
    (lasting : start.backend.IsLasting) {acts : List Act}
    (kept : ∀ act ∈ acts, act.removed? = none) {i : Nat} {s : Shell} {line : String}
    (idle : (({ shared := start } : Sharing).run acts).sessions i = ⟨some s.view, none⟩)
    (same : s.shared = (({ shared := start } : Sharing).run acts).shared)
    (asks : DotCommand.read line = .sync) :
    let w := ({ shared := start } : Sharing).run acts
    let out := Console.answer line ⟨s.view, s.settings, s.shared⟩
    let s' := s.dotCommand line
    match s.view.renew s.shared with
    | (.ok v, shared) =>
      out.reply = .ok (.text (syncReply (gained s.view.all v.all).length)) ∧
      (∀ r ∈ s.view.all, ∃ r' ∈ v.all, r'.seq = r.seq ∧ r'.text = r.text) ∧
      s' = (({ s with view := v, shared } : Shell).swapHistory).conclude out ∧
      s'.view = v ∧ s'.resets = s.resets + 1 ∧
      ∀ (quiet : List Act) (t : Shell) (again : String), (∀ act ∈ quiet, act.removed? = none) →
        let w' := (w.put i ⟨some v, none⟩ shared).run quiet
        w'.sessions i = ⟨some t.view, none⟩ → t.shared = w'.shared →
        w'.shared.backend.records = w.shared.backend.records →
        DotCommand.read again = .sync → (t.view.renew t.shared).1.isOk = true →
        (Console.answer again ⟨t.view, t.settings, t.shared⟩).reply = .ok (.text (syncReply 0))
    | (.error f, shared) =>
      s' = ({ s with shared } : Shell).conclude out ∧
      s'.view = s.view ∧ s'.histories = s.histories ∧ s'.resets = s.resets ∧
      ((∃ e, f = .store e ∧
          out.reply = .ok (.text ("[red]Error:[/red] " ++ Markup.escaped e.message))) ∨
        0x8000000000000000 ≤ w.shared.backend.records.length + 1) := by
  intro w out s'
  have whole : w.Whole start.backend.first := (whole_start isNew lasting).run kept
  have hv : (w.sessions i).view = some s.view := by rw [idle]
  cases hrenew : s.view.renew s.shared with
  | mk result shared =>
    have hrenew' : s.view.renew w.shared = (result, shared) := same ▸ hrenew
    cases result with
    | ok v =>
      have hs' : s' = (({ s with view := v, shared } : Shell).swapHistory).conclude out :=
        dotCommand_sync asks hrenew (whole.length_renew hv hrenew')
      refine ⟨reply_sync whole idle same asks hrenew,
        fun r hr => whole.kept_renew hv hrenew' hr, hs', ?_, ?_, ?_⟩
      · rw [hs']
        exact (Keeps.conclude _ out).view
      · rw [hs']
        exact resets_conclude _ out
      · intro quiet t again quietKept w' idle' same' unchanged asksAgain renews
        have synced : (w.put i ⟨some v, none⟩ shared).Whole start.backend.first :=
          whole.renew (by rw [idle]) hrenew'
        have seen : w'.shared.backend.records = v.all := by
          rw [unchanged, View.renew_eq_ok whole.ordered.orderly whole.counted hrenew']
        exact reply_sync_again synced (by rw [sessions_put, if_pos rfl]) quietKept seen idle' same'
          asksAgain renews
    | error f =>
      have hs' : s' = ({ s with shared } : Shell).conclude out := dotCommand_sync_error asks hrenew
      have keeps : Keeps { s with shared } s' := hs' ▸ Keeps.conclude _ out
      have hresets : s'.resets = s.resets := by
        rw [hs']
        exact resets_conclude _ out
      have reports : w.shared.backend.Reports := reports_run isNew hv
      have gapless := whole.gapless
      have same' : w.shared = s.shared := same.symm
      rw [same'] at reports gapless ⊢
      exact ⟨hs', keeps.view, keeps.histories, hresets,
        reply_sync_error reports gapless start.backend.first_le_one asks hrenew⟩

/-- Session `1` adds `ls` and `pwd`, and session `0` adds `make` in between. -/
def takingTurns : List Act :=
  [.attach, .begin 0, .finish 0, .attach, .begin 1, .finish 1, .add 1 ⟨"ls", .ofNat 5, "/"⟩,
    .add 0 ⟨"make", .ofNat 7, "/src"⟩, .add 1 ⟨"pwd", .ofNat 9, "/"⟩]

/-- The shell of session `0` after these acts, when the store fails in some calls. -/
def behind (failing : List (Call × String)) : Shell where
  view := ⟨[], [⟨2, "make", .ofNat 7, "/src"⟩]⟩
  shared :=
    (({ shared := Shared.untouched } : Sharing).run (takingTurns ++ [.fail failing])).shared
  settings := {}
  surroundings := atWork

/-- All that the store has. -/
def caughtUp : View :=
  ⟨[⟨1, "ls", .ofNat 5, "/"⟩, ⟨2, "make", .ofNat 7, "/src"⟩, ⟨3, "pwd", .ofNat 9, "/"⟩], []⟩

theorem sync_takingTurns :
    let reply (s : Shell) := (Console.answer ".sync" ⟨s.view, s.settings, s.shared⟩).reply
    let s := behind []
    let shared := (s.view.renew s.shared).2
    reply s = .ok (.text "History synced (2 new commands)") ∧
      (s.dotCommand ".sync").view = caughtUp ∧ (s.dotCommand ".sync").resets = 1 ∧
      reply { s with view := caughtUp, shared } = .ok (.text "History synced (0 new commands)") ∧
      reply (behind [(.range, "disk I/O error")]) =
        .ok (.text "[red]Error:[/red] disk I/O error") := by
  intro reply s shared
  have isNew : Shared.untouched.backend.IsNew := .database {} [] "hist.db"
  have lasting : Shared.untouched.backend.IsLasting :=
    Database.isLasting_at {} [] "hist.db" fun a ha => by
      cases ha
      rfl
  have kept (failing : List (Call × String)) :
      ∀ act ∈ takingTurns ++ [.fail failing], act.removed? = none := by
    simp [takingTurns, Act.removed?]
  have asks : DotCommand.read ".sync" = .sync := by decide +kernel
  have idle (failing : List (Call × String)) :
      (({ shared := Shared.untouched } : Sharing).run (takingTurns ++ [.fail failing])).sessions 0 =
        ⟨some (behind failing).view, none⟩ := by
    rfl
  have synced := sync_run isNew lasting (kept []) (idle []) rfl asks
  have hrenew : s.view.renew s.shared = (.ok caughtUp, shared) :=
    Prod.ext (by decide +kernel) rfl
  rw [hrenew] at synced
  obtain ⟨hreply, -, -, hview, hresets, again⟩ := synced
  have two : syncReply (gained s.view.all caughtUp.all).length =
      "History synced (2 new commands)" := by decide +kernel
  have none : syncReply 0 = "History synced (0 new commands)" := by decide +kernel
  have nothing := again [] { s with view := caughtUp, shared } ".sync"
    (fun _ hact => (List.not_mem_nil hact).elim) rfl rfl (by decide +kernel) asks
    (by decide +kernel)
  have failed := sync_run isNew lasting (kept [(.range, "disk I/O error")]) (idle _) rfl asks
  have hfails : ((behind [(.range, "disk I/O error")]).view.renew
      (behind [(.range, "disk I/O error")]).shared).1 =
        .error (.store (.reported "disk I/O error")) := by decide +kernel
  cases hout : (behind [(.range, "disk I/O error")]).view.renew
      (behind [(.range, "disk I/O error")]).shared with
  | mk result shared' =>
    rw [hout] at failed hfails
    obtain rfl : result = _ := hfails
    obtain ⟨-, -, -, -, ⟨e, he, herror⟩ | spent⟩ := failed
    · cases he
      have escaped : Markup.escaped (StoreError.reported "disk I/O error").message =
          "disk I/O error" := by decide +kernel
      rw [escaped] at herror
      exact ⟨two ▸ hreply, hview, hresets, none ▸ nothing, herror⟩
    · exact absurd spent (by decide +kernel)

end Promptline.Shell
