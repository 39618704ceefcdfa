import Homelab.Remote

/-!
# The connection to a build host

A build host is used by commands, and between them the connection is closed.  What passes over
the network is told here as a history, and from the history alone it is told which connections are
open: those that an attempt has opened and that were not closed since.  Whatever the other side
does, there is never more than one, everything is sent on it, and an attempt is made by a command
that finds none.
-/

namespace Homelab

/-- The other side has done what a signal asks for. -/
def RemoteReply.answers (reply : RemoteReply) : Signal → Bool
  | .connect _ _ => reply.connect.isOk
  | .send _ _ => reply.send.isOk
  | .keepAlive _ _ => true
  | .close _ => true

namespace Remote

/-- A use of a build host: a command, with what the other side does about it, or a close. -/
inductive Use where
  | run (c : Command) (reply : RemoteReply)
  | close

/-- Signals in the order in which they have passed, each with word on whether the other side has
done what it asks for. -/
abbrev History := List (Signal × Bool)

/-- What passes in a use, and the host after it. -/
def use (r : Remote) : Use → History × Remote
  | .run c reply =>
      ((r.run c reply).signals.map fun s => (s, reply.answers s), (r.run c reply).remote)
  | .close => (r.close.1.map fun s => (s, true), r.close.2)

/-- What passes in some uses one after another, and the host after them. -/
def useAll (r : Remote) : List Use → History × Remote
  | [] => ([], r)
  | u :: rest => ((r.use u).1 ++ ((r.use u).2.useAll rest).1, ((r.use u).2.useAll rest).2)

theorem useAll_append
    (r : Remote) (earlier later : List Use) :
    r.useAll (earlier ++ later) =
      ((r.useAll earlier).1 ++ ((r.useAll earlier).2.useAll later).1,
        ((r.useAll earlier).2.useAll later).2) := by
  induction earlier generalizing r with
  | nil => rfl
  | cons u rest ih =>
      rw [List.cons_append, useAll, ih]
      simp [useAll]

/-! ### Open connections -/

/-- The connections that are open once a signal has passed, the latest first. -/
def opened (live : List Nat) : Signal × Bool → List Nat
  | (.connect n _, true) => n :: live
  | (.close n, _) => live.filter (· ≠ n)
  | _ => live

namespace History

/-- The connections that are open after a history, the latest first. -/
def live (h : History) : List Nat := h.foldl opened []

/-- The connections that were attempted. -/
def attempted (h : History) : List Nat :=
  h.filterMap fun e => match e.1 with
    | .connect n _ => some n
    | _ => none

/-- The connections that were closed. -/
def closed (h : History) : List Nat :=
  h.filterMap fun e => match e.1 with
    | .close n => some n
    | _ => none

variable (h more : History)

theorem live_append : (h ++ more).live = more.foldl opened h.live := List.foldl_append

theorem attempted_append : (h ++ more).attempted = h.attempted ++ attempted more :=
  List.filterMap_append

theorem closed_append : (h ++ more).closed = h.closed ++ closed more := List.filterMap_append

end History

/-- What may pass while these connections are open: an attempt if there is none, and all else on
the only one. -/
inductive Due : List Nat → Signal × Bool → Prop
  | connect (n : Nat) (access : RemoteAccess) (answered : Bool) :
      Due [] (.connect n access, answered)
  | keepAlive (n seconds : Nat) :
      Due [n] (.keepAlive n seconds, true)
  | send (n : Nat) (line : String) (answered : Bool) :
      Due [n] (.send n line, answered)
  | close (n : Nat) :
      Due [n] (.close n, true)

/-- A history in which each signal was due when it passed. -/
inductive Orderly : History → Prop
  | nil : Orderly []
  | snoc {h : History} {e : Signal × Bool} (earlier : Orderly h) (due : Due h.live e) :
      Orderly (h ++ [e])

theorem Due.length_opened
    {live : List Nat} {e : Signal × Bool}
    (h : Due live e) :
    (opened live e).length ≤ 1 := by
  cases h with
  | connect n access answered => cases answered <;> simp [opened]
  | keepAlive n seconds => simp [opened]
  | send n line answered => simp [opened]
  | close n => simp [opened]

namespace Orderly

variable {h : History} {live : List Nat} {e : Signal × Bool}

theorem concat
    (hh : Orderly h)
    (hlive : h.live = live)
    (due : Due live e) :
    Orderly (h ++ [e]) ∧ History.live (h ++ [e]) = opened live e :=
  ⟨hh.snoc (hlive ▸ due), by rw [History.live_append, hlive]; rfl⟩

theorem due
    {before after : History} {e : Signal × Bool}
    (hh : Orderly h)
    (heq : h = before ++ e :: after) :
    Due before.live e := by
  induction hh generalizing after with
  | nil => simp at heq
  | @snoc h last earlier hlast ih =>
      rcases List.eq_nil_or_concat after with rfl | ⟨front, back, rfl⟩
      · obtain ⟨rfl, hsame⟩ := List.append_inj' heq rfl
        obtain rfl := List.cons.inj hsame |>.1
        exact hlast
      · have hfront : h ++ [last] = (before ++ e :: front) ++ [back] := by simpa using heq
        exact ih (List.append_inj' hfront rfl).1

/-- No two connections are open at once. -/
theorem length_live
    {before : History}
    (hh : Orderly h)
    (hbefore : before <+: h) :
    before.live.length ≤ 1 := by
  induction hh with
  | nil =>
      obtain rfl := List.prefix_nil.mp hbefore
      simp [History.live]
  | @snoc h last earlier hlast ih =>
      rcases List.prefix_concat_iff.mp hbefore with rfl | hbefore
      · rw [History.live_append]
        exact hlast.length_opened
      · exact ih hbefore

end Orderly

/-! ### What a use does -/

/-- The connections that are open, the latest first, and how many were attempted. -/
structure Links where
  live : List Nat
  attempts : Nat

/-- What a history tells about connections. -/
def History.links (h : History) : Links := ⟨h.live, h.attempted.length⟩

/-- What a host knows about connections. -/
def links (r : Remote) : Links := ⟨r.current.toList, r.attempts⟩

/-- What passes in a use by the connections that there are before it, and those after it.  An
attempt has the number of the attempts before it. -/
inductive Passes (access : RemoteAccess) : Links → Use → History → Links → Prop
  | reused (n k : Nat) (c : Command) (reply : RemoteReply) :
      Passes access ⟨[n], k⟩ (.run c reply)
        [(.send n (commandLine c.vars c.directory c.words), reply.send.isOk)] ⟨[n], k⟩
  | refused (k : Nat) {c : Command} {reply : RemoteReply} {reason : String}
      (h : reply.connect = .error reason) :
      Passes access ⟨[], k⟩ (.run c reply) [(.connect k access, false)] ⟨[], k + 1⟩
  | connected (k : Nat) {c : Command} {reply : RemoteReply} {alive : Bool}
      (h : reply.connect = .ok alive) :
      Passes access ⟨[], k⟩ (.run c reply)
        ((.connect k access, true) :: (if alive then [(.keepAlive k aliveSeconds, true)] else []) ++
          [(.send k (commandLine c.vars c.directory c.words), reply.send.isOk)]) ⟨[k], k + 1⟩
  | closed (n k : Nat) :
      Passes access ⟨[n], k⟩ .close [(.close n, true)] ⟨[], k⟩
  | idle (k : Nat) :
      Passes access ⟨[], k⟩ .close [] ⟨[], k⟩

theorem passes_use
    (r : Remote) (u : Use) :
    Passes r.access r.links u (r.use u).1 (r.use u).2.links := by
  obtain ⟨host, home, k, current⟩ := r
  cases u with
  | run c reply =>
      cases current with
      | some n =>
          have huse : use ⟨host, home, k, some n⟩ (.run c reply) =
              ([(.send n (commandLine c.vars c.directory c.words), reply.send.isOk)],
                ⟨host, home, k, some n⟩) := by
            cases hsend : reply.send <;> simp [use, run, connection, hsend, RemoteReply.answers]
          rw [huse]
          exact .reused n k c reply
      | none =>
          cases hconnect : reply.connect with
          | error reason =>
              have huse : use ⟨host, home, k, none⟩ (.run c reply) =
                  ([(.connect k (access ⟨host, home, k, none⟩), false)],
                    ⟨host, home, k + 1, none⟩) := by
                simp [use, run, connection, hconnect, RemoteReply.answers, Except.isOk,
                  Except.toBool]
              rw [huse]
              exact .refused k hconnect
          | ok alive =>
              have huse : use ⟨host, home, k, none⟩ (.run c reply) =
                  ((.connect k (access ⟨host, home, k, none⟩), true) ::
                      (if alive then [(.keepAlive k aliveSeconds, true)] else []) ++
                      [(.send k (commandLine c.vars c.directory c.words), reply.send.isOk)],
                    ⟨host, home, k + 1, some k⟩) := by
                cases hsend : reply.send <;> cases alive <;>
                  simp [use, run, connection, hconnect, hsend, RemoteReply.answers, Except.isOk,
                    Except.toBool]
              rw [huse]
              exact .connected k hconnect
  | close =>
      cases current with
      | some n => exact .closed n k
      | none => exact .idle k

/-- A host is reached in the same way all the time. -/
theorem access_use
    (r : Remote) (u : Use) :
    (r.use u).2.access = r.access := by
  obtain ⟨host, home, k, current⟩ := r
  cases u with
  | run c reply =>
      cases current <;> cases hconnect : reply.connect <;> cases hsend : reply.send <;>
        simp [use, run, connection, hconnect, hsend, access]
  | close => cases current <;> rfl

/-! ### What a use adds to a history -/

/-- The numbers of connections in a history: attempts are counted, and a connection that was closed
is not open any more. -/
structure History.Numbered (h : History) : Prop where
  attempted : h.attempted = List.range h.links.attempts
  live : ∀ n ∈ h.links.live, n < h.links.attempts
  closed : h.closed.Nodup
  past : ∀ n ∈ h.closed, n < h.links.attempts ∧ n ∉ h.links.live

section

variable {access : RemoteAccess} {before after : Links} {u : Use} {h passed : History}

/-- An attempt is made exactly by a command that finds no connection open. -/
theorem Passes.attempt_iff
    (hp : Passes access before u passed after) :
    (∃ n access answered, (.connect n access, answered) ∈ passed) ↔
      (∃ c reply, u = .run c reply) ∧ before.live = [] := by
  cases hp with
  | reused n k c reply => simp
  | @refused k c reply reason _ =>
      exact ⟨fun _ => ⟨⟨c, reply, rfl⟩, rfl⟩, fun _ => ⟨k, access, false, by simp⟩⟩
  | @connected k c reply alive _ =>
      exact ⟨fun _ => ⟨⟨c, reply, rfl⟩, rfl⟩, fun _ => ⟨k, access, true, by simp⟩⟩
  | closed n k => simp
  | idle k => simp

/-- The history itself tells which connections there are after a use. -/
theorem Passes.links
    (hp : Passes access h.links u passed after) :
    (h ++ passed).links = after := by
  have hlinks : (h ++ passed).links =
      ⟨passed.foldl opened h.links.live,
        h.links.attempts + (History.attempted passed).length⟩ := by
    simp [History.links, History.live_append, History.attempted_append]
  rw [hlinks]
  generalize h.links = before at hp
  cases hp with
  | reused n k c reply => rfl
  | refused k _ => rfl
  | @connected k c reply alive _ => cases alive <;> rfl
  | closed n k => simp [opened, History.attempted]
  | idle k => rfl

theorem Passes.orderly
    (hh : Orderly h)
    (hp : Passes access h.links u passed after) :
    Orderly (h ++ passed) := by
  generalize hbefore : h.links = before at hp
  have hlive : h.live = before.live := congrArg Links.live hbefore
  cases hp with
  | reused n k c reply => exact (hh.concat hlive (.send n _ _)).1
  | refused k _ => exact (hh.concat hlive (.connect k access false)).1
  | @connected k c reply alive _ =>
      obtain ⟨hh, hlive⟩ := hh.concat hlive (.connect k access true)
      cases alive with
      | false => simpa using (hh.concat hlive (.send k _ _)).1
      | true =>
          obtain ⟨hh, hlive⟩ := hh.concat hlive (.keepAlive k aliveSeconds)
          simpa using (hh.concat hlive (.send k _ _)).1
  | closed n k => exact (hh.concat hlive (.close n)).1
  | idle k => rwa [List.append_nil]

/-- The next number is new, and only what is open is closed. -/
theorem Passes.numbered
    (hh : h.Numbered)
    (hp : Passes access h.links u passed after) :
    History.Numbered (h ++ passed) := by
  obtain ⟨hattempted, hlive, hclosed, hpast⟩ := hh
  have hafter := hp.links
  generalize h.links = before at hp hattempted hlive hpast
  refine ⟨?_, ?_, ?_, ?_⟩
  · rw [hafter, History.attempted_append, hattempted]
    cases hp with
    | @connected k c reply alive _ => cases alive <;> simp [History.attempted, List.range_succ]
    | _ => simp [History.attempted, List.range_succ]
  · rw [hafter]
    cases hp with
    | reused n k c reply => exact hlive
    | _ => simp
  · rw [History.closed_append]
    cases hp with
    | @connected k c reply alive _ => cases alive <;> simpa [History.closed] using hclosed
    | closed n k =>
        have hnew : n ∉ h.closed := fun hmem => (hpast n hmem).2 List.mem_cons_self
        refine List.nodup_append.mpr ⟨hclosed, by simp [History.closed], ?_⟩
        rintro m hm _ hn rfl
        obtain rfl : m = n := by simpa [History.closed] using hn
        exact hnew hm
    | _ => simpa [History.closed] using hclosed
  · rw [hafter, History.closed_append]
    intro m hm
    cases hp with
    | reused n k c reply =>
        have hm : m ∈ h.closed := by simpa [History.closed] using hm
        exact hpast m hm
    | refused k _ =>
        have hm : m ∈ h.closed := by simpa [History.closed] using hm
        exact ⟨Nat.lt_succ_of_lt (hpast m hm).1, by simp⟩
    | @connected k c reply alive _ =>
        have hm : m ∈ h.closed := by cases alive <;> simpa [History.closed] using hm
        have hlt : m < k := (hpast m hm).1
        exact ⟨Nat.lt_succ_of_lt hlt, by simpa using Nat.ne_of_lt hlt⟩
    | closed n k =>
        have hm : m ∈ h.closed ∨ m = n := by simpa [History.closed] using hm
        refine ⟨?_, by simp⟩
        rcases hm with hm | rfl
        · exact (hpast m hm).1
        · exact hlive m List.mem_cons_self
    | idle k =>
        have hm : m ∈ h.closed := by simpa [History.closed] using hm
        exact hpast m hm

end

/-! ### Uses one after another -/

/-- A host and the history that it has been through. -/
structure Tracks (access : RemoteAccess) (h : History) (r : Remote) : Prop where
  access : r.access = access
  links : h.links = r.links
  orderly : Orderly h
  numbered : h.Numbered

section

variable {access : RemoteAccess} {h : History} {r : Remote}

theorem tracks_start
    (host : BuildHost) (home : String) :
    Tracks (start host home).access [] (start host home) where
  access := rfl
  links := rfl
  orderly := .nil
  numbered := ⟨rfl, by simp [History.links, History.live], by simp [History.closed],
    by simp [History.closed]⟩

theorem Tracks.passes
    (hr : Tracks access h r)
    (u : Use) :
    Passes access h.links u (r.use u).1 (r.use u).2.links := by
  rw [hr.links, ← hr.access]
  exact passes_use r u

theorem Tracks.use
    (hr : Tracks access h r)
    (u : Use) :
    Tracks access (h ++ (r.use u).1) (r.use u).2 where
  access := (access_use r u).trans hr.access
  links := (hr.passes u).links
  orderly := (hr.passes u).orderly hr.orderly
  numbered := (hr.passes u).numbered hr.numbered

theorem Tracks.useAll
    (hr : Tracks access h r)
    (us : List Use) :
    Tracks access (h ++ (r.useAll us).1) (r.useAll us).2 := by
  induction us generalizing h r with
  | nil => simpa [Remote.useAll] using hr
  | cons u rest ih =>
      have hrest := ih (hr.use u)
      rwa [List.append_assoc] at hrest

end

/-- What passes in a use stands in the whole history behind what has passed before. -/
theorem passed_in_useAll
    (r : Remote) (earlier : List Use) (u : Use) (later : List Use) :
    (r.useAll earlier).1 ++ ((r.useAll earlier).2.use u).1 <+:
      (r.useAll (earlier ++ u :: later)).1 := by
  rw [useAll_append, useAll, ← List.append_assoc]
  exact List.prefix_append _ _

/-- Whatever commands are run on a build host and however often its connection is closed between
them, and whatever the other side does each time: an attempt is made while no connection is open, a
command is sent on the only one that is, and a connection is closed while it is open, at most once.
A command that finds no connection makes an attempt, with a number of its own; if that fails there
is still none. -/
theorem one_connection_at_once
    (host : BuildHost) (home : String) (us : List Use) :
    let history : History := ((start host home).useAll us).1
    (∀ (before after : History) (e : Signal × Bool), history = before ++ e :: after →
      Due before.live e) ∧
    (∀ before : History, before <+: history → before.live.length ≤ 1) ∧
    history.attempted = List.range history.attempted.length ∧
    history.closed.Nodup ∧
    ∀ (earlier later : List Use) (u : Use), us = earlier ++ u :: later →
      let past : History := ((start host home).useAll earlier).1
      let passed : History := (((start host home).useAll earlier).2.use u).1
      past ++ passed <+: history ∧
        Passes (start host home).access past.links u passed (History.links (past ++ passed)) ∧
        ((∃ n access answered, (.connect n access, answered) ∈ passed) ↔
          (∃ c reply, u = .run c reply) ∧ past.live = []) := by
  intro history
  have hall : Tracks (start host home).access history ((start host home).useAll us).2 :=
    (tracks_start host home).useAll us
  refine ⟨fun before after e heq => hall.orderly.due heq,
    fun before hbefore => hall.orderly.length_live hbefore, hall.numbered.attempted,
    hall.numbered.closed, ?_⟩
  rintro earlier later u rfl past passed
  have hpast : Tracks (start host home).access past ((start host home).useAll earlier).2 :=
    (tracks_start host home).useAll earlier
  have hpasses := hpast.passes u
  refine ⟨passed_in_useAll _ earlier u later, ?_, hpasses.attempt_iff⟩
  rw [hpasses.links]
  exact hpasses

/-- A host for samples. -/
def sampleHost : BuildHost := ⟨"build.lan", "op", none, 22⟩

/-- A command, with what the other side does about it. -/
def sampleRun (word : String) (connect : Except String Bool) (send : Except String RemoteEnd) :
    Use :=
  .run ⟨[word], [], false, none, none⟩ ⟨connect, send⟩

/-- The first command finds the host unreachable, the second cannot be sent, and the third is sent
on the connection of the second.  It is closed twice, and then there is another. -/
def sampleUses : List Use :=
  [sampleRun "git" (.error "refused") (.error "closed"),
    sampleRun "git" (.ok true) (.error "closed"),
    sampleRun "packer" (.error "refused") (.ok ⟨0, "", ""⟩),
    .close,
    .close,
    sampleRun "packer" (.ok false) (.ok ⟨0, "", ""⟩)]

theorem one_connection_at_once_sample :
    let history : History := ((start sampleHost "/home/op").useAll sampleUses).1
    let past : History := ((start sampleHost "/home/op").useAll (sampleUses.take 2)).1
    let sent : Signal × Bool := (.send 1 (commandLine [] none ["packer"]), true)
    history.attempted = [0, 1, 2] ∧ history.closed = [1] ∧ past.links = ⟨[1], 2⟩ ∧
      Due past.live sent ∧ past.live.length ≤ 1 ∧
      Passes (start sampleHost "/home/op").access past.links
        (sampleRun "packer" (.error "refused") (.ok ⟨0, "", ""⟩)) [sent]
        (History.links (past ++ [sent])) := by
  intro history past sent
  obtain ⟨hdue, hlive, -, -, hpasses⟩ :=
    one_connection_at_once sampleHost "/home/op" sampleUses
  have hsplit : history = past ++ sent :: history.drop 5 := rfl
  refine ⟨rfl, rfl, rfl, hdue past _ sent hsplit, hlive past ⟨_, hsplit.symm⟩, ?_⟩
  exact (hpasses (sampleUses.take 2) (sampleUses.drop 3) _ rfl).2.1

end Remote
end Homelab
