import Tempmail.Mx.Relay

set_option autoImplicit false

namespace Tempmail.Mx

variable {Content Hash : Type} [DecidableEq Hash]

def Removed (runes : Runes) (domain : String) (world : World Content Hash) : Prop :=
  ∃ cfg, world.watched.currentConfig = some cfg ∧ domain ∉ cfg.getDomainMap runes

def StaysRemoved (runes : Runes) (loader : Loader Content Hash) (parseAddress : String → Option String) (domain : String)
    (start : World Content Hash) (events : List (Event Content)) : Prop :=
  (∀ moment ∈ (server runes loader parseAddress).trace start events, Removed runes domain moment.before) ∧
    Removed runes domain ((server runes loader parseAddress).final start events)

def InDomain (runes : Runes) (parseAddress : String → Option String) (recipient domain : String) : Prop :=
  ∃ address, parseAddress recipient = some address ∧ recipientDomain runes address = some domain

def NeverAccepted (runes : Runes) (parseAddress : String → Option String) (domain : String)
    (moment : Machine.Moment (World Content Hash) (Event Content) (Option (Except SmtpError Unit))) : Prop :=
  ∀ id recipient addressExists, moment.event = .rcpt id recipient addressExists →
    InDomain runes parseAddress recipient domain → moment.answer ≠ some (.ok ())

def OpenedSince (earlier : List (Machine.Moment (World Content Hash) (Event Content) (Option (Except SmtpError Unit))))
    (id : Nat) : Prop :=
  ∃ moment ∈ earlier, ∃ remoteAddr hostname, moment.event = .openSession id remoteAddr hostname

-- The session is newer than the removal, its snapshot does not list the
-- domain, or the database knows no such mailbox.
def SnapshotClear (runes : Runes) (parseAddress : String → Option String) (domain : String)
    (earlier : List (Machine.Moment (World Content Hash) (Event Content) (Option (Except SmtpError Unit))))
    (moment : Machine.Moment (World Content Hash) (Event Content) (Option (Except SmtpError Unit))) : Prop :=
  ∀ id recipient addressExists session address, moment.event = .rcpt id recipient addressExists →
    moment.before.sessions.lookup id = some session → parseAddress recipient = some address →
    recipientDomain runes address = some domain →
    OpenedSince earlier id ∨ domain ∉ session.domains ∨ addressExists (runes.lower address) ≠ some true

theorem rcpt_accepted_iff (runes : Runes) (loader : Loader Content Hash) (parseAddress : String → Option String)
    (addressExists : String → Option Bool) (session : Session) (recipient : String) (file : Option Content)
    (watched : Watched Hash) (address domain : String) (parsed : parseAddress recipient = some address)
    (located : recipientDomain runes address = some domain) :
    (session.rcpt runes loader parseAddress addressExists recipient file watched).1 = .ok () ↔
      domain ∈ (session.refreshDomains runes loader domain file watched).1.domains ∧
        addressExists (runes.lower address) = some true := by
  simp only [Session.rcpt, parsed, located]
  by_cases known : domain ∈ (session.refreshDomains runes loader domain file watched).1.domains
  · rw [if_neg (not_not.mpr known)]
    split
    · next failed => simp [failed]
    · next absent => simp [absent]
    · next exists_ => split <;> simp [known, exists_]
  · simp [known]

theorem refresh_domains (runes : Runes) (loader : Loader Content Hash) (session : Session) (domain : String)
    (file : Option Content) (watched : Watched Hash) :
    (session.refreshDomains runes loader domain file watched).1.domains = session.domains ∨
      ∃ cfg, (session.refreshDomains runes loader domain file watched).2.currentConfig = some cfg ∧
        (session.refreshDomains runes loader domain file watched).1.domains = cfg.getDomainMap runes := by
  by_cases known : domain ∈ session.domains
  · simp [Session.refreshDomains, known]
  · simp only [Session.refreshDomains, known, if_false]
    generalize readConfigPath watched file = read
    by_cases same : loader.hashFile read = none ∨ loader.hashFile read = watched.configHash
    · rw [reload_consumed loader read read watched same]
      exact Or.inl rfl
    · cases loads : loadConfig loader.unmarshal read with
      | error failure => simp [reloadIfChanged, same, loads]
      | ok cfg =>
          rw [reload_fresh loader read read watched cfg same loads]
          exact Or.inr ⟨cfg, rfl, rfl⟩

theorem rcpt_refreshed (runes : Runes) (loader : Loader Content Hash) (parseAddress : String → Option String)
    (addressExists : String → Option Bool) (session : Session) (recipient : String) (file : Option Content)
    (watched : Watched Hash) (address domain : String) (parsed : parseAddress recipient = some address)
    (located : recipientDomain runes address = some domain) :
    (session.rcpt runes loader parseAddress addressExists recipient file watched).2.1.domains =
        (session.refreshDomains runes loader domain file watched).1.domains ∧
      (session.rcpt runes loader parseAddress addressExists recipient file watched).2.2 =
        (session.refreshDomains runes loader domain file watched).2 := by
  simp only [Session.rcpt, parsed, located]
  generalize session.refreshDomains runes loader domain file watched = next
  by_cases known : domain ∈ next.1.domains
  · rw [if_neg (not_not.mpr known)]
    split
    · exact ⟨rfl, rfl⟩
    · exact ⟨rfl, rfl⟩
    · split
      · exact ⟨rfl, rfl⟩
      · exact ⟨rfl, rfl⟩
  · rw [if_pos known]
    exact ⟨rfl, rfl⟩

theorem rcpt_snapshot (runes : Runes) (loader : Loader Content Hash) (parseAddress : String → Option String)
    (addressExists : String → Option Bool) (session : Session) (recipient : String) (file : Option Content)
    (watched : Watched Hash) :
    (session.rcpt runes loader parseAddress addressExists recipient file watched).2.1.domains = session.domains ∨
      ∃ cfg, (session.rcpt runes loader parseAddress addressExists recipient file watched).2.2.currentConfig = some cfg ∧
        (session.rcpt runes loader parseAddress addressExists recipient file watched).2.1.domains = cfg.getDomainMap runes := by
  cases parsed : parseAddress recipient with
  | none => simp [Session.rcpt, parsed]
  | some address =>
      cases located : recipientDomain runes address with
      | none => simp [Session.rcpt, parsed, located]
      | some named =>
          obtain ⟨domains, watched_eq⟩ := rcpt_refreshed runes loader parseAddress addressExists session recipient file watched
            address named parsed located
          rw [domains, watched_eq]
          exact refresh_domains runes loader session named file watched

theorem rcpt_clean (runes : Runes) (loader : Loader Content Hash) (parseAddress : String → Option String)
    (addressExists : String → Option Bool) (domain : String) (session : Session) (recipient : String)
    (file : Option Content) (watched : Watched Hash) (clean : domain ∉ session.domains)
    (stays : ∃ cfg, (session.rcpt runes loader parseAddress addressExists recipient file watched).2.2.currentConfig = some cfg ∧
      domain ∉ cfg.getDomainMap runes) :
    domain ∉ (session.rcpt runes loader parseAddress addressExists recipient file watched).2.1.domains := by
  rcases rcpt_snapshot runes loader parseAddress addressExists session recipient file watched with same | ⟨cfg, loaded, taken⟩
  · rwa [same]
  · obtain ⟨current, present, absent⟩ := stays
    rw [loaded, Option.some.injEq] at present
    rwa [taken, present]

def CleanAt (domain : String) (id : Nat) (world : World Content Hash) : Prop :=
  ∀ session, world.sessions.lookup id = some session → domain ∉ session.domains

omit [DecidableEq Hash] in
theorem update_clean (domain : String) (id other : Nat) (world : World Content Hash) (change : Session → Session)
    (kept : ∀ session, (change session).domains = session.domains) (clean : CleanAt domain id world) :
    CleanAt domain id (world.updateSession other change) := by
  cases present : world.sessions.lookup other with
  | none => simpa only [World.updateSession, present] using clean
  | some old =>
      intro session stored
      simp only [World.updateSession, present] at stored
      by_cases same : id = other
      · subst same
        rw [AList.lookup_insert, Option.some.injEq] at stored
        rw [← stored, kept]
        exact clean old present
      · rw [AList.lookup_insert_ne same] at stored
        exact clean session stored

theorem serve_clean (runes : Runes) (loader : Loader Content Hash) (parseAddress : String → Option String)
    (domain : String) (id : Nat) (world : World Content Hash) (event : Event Content) (removed : Removed runes domain world)
    (stays : Removed runes domain (serve runes loader parseAddress world event).1)
    (clean : CleanAt domain id world ∨ ∃ remoteAddr hostname, event = .openSession id remoteAddr hostname) :
    CleanAt domain id (serve runes loader parseAddress world event).1 := by
  cases event with
  | write content => exact clean.resolve_right (by simp)
  | watch => exact clean.resolve_right (by simp)
  | tick => exact clean.resolve_right (by simp)
  | mail other sender => exact update_clean domain id other world _ (fun _ => rfl) (clean.resolve_right (by simp))
  | reset other => exact update_clean domain id other world _ (fun _ => rfl) (clean.resolve_right (by simp))
  | openSession other remoteAddr hostname =>
      intro session stored
      simp only [serve] at stored
      by_cases same : id = other
      · subst same
        obtain ⟨cfg, loaded, absent⟩ := removed
        rw [AList.lookup_insert, Option.some.injEq] at stored
        rw [← stored, newSession, loaded]
        exact absent
      · rw [AList.lookup_insert_ne same] at stored
        have before : CleanAt domain id world := by
          rcases clean with clean | ⟨_, _, opened⟩
          · exact clean
          · exact absurd (by injection opened with other_eq; exact other_eq.symm) same
        exact before session stored
  | rcpt other recipient addressExists =>
      have before := clean.resolve_right (by simp)
      cases present : world.sessions.lookup other with
      | none => simpa only [serve, present] using before
      | some old =>
          intro session stored
          simp only [serve, present] at stored stays
          by_cases same : id = other
          · subst same
            rw [AList.lookup_insert, Option.some.injEq] at stored
            rw [← stored]
            exact rcpt_clean runes loader parseAddress addressExists domain old recipient world.file world.watched
              (before old present) stays
          · rw [AList.lookup_insert_ne same] at stored
            exact before session stored

theorem removed_step (runes : Runes) (loader : Loader Content Hash) (parseAddress : String → Option String)
    (domain : String) (start : World Content Hash) (event : Event Content) (rest : List (Event Content))
    (removed : StaysRemoved runes loader parseAddress domain start (event :: rest)) :
    Removed runes domain start ∧ StaysRemoved runes loader parseAddress domain
      (serve runes loader parseAddress start event).1 rest :=
  ⟨removed.1 _ List.mem_cons_self, fun moment member => removed.1 moment (List.mem_cons_of_mem _ member), removed.2⟩

theorem stays_now (runes : Runes) (loader : Loader Content Hash) (parseAddress : String → Option String)
    (domain : String) (start : World Content Hash) (events : List (Event Content))
    (removed : StaysRemoved runes loader parseAddress domain start events) : Removed runes domain start := by
  cases events with
  | nil => exact removed.2
  | cons event rest => exact (removed_step runes loader parseAddress domain start event rest removed).1

theorem stays_before (runes : Runes) (loader : Loader Content Hash) (parseAddress : String → Option String)
    (domain : String) (start : World Content Hash) (first second : List (Event Content))
    (removed : StaysRemoved runes loader parseAddress domain start (first ++ second)) :
    StaysRemoved runes loader parseAddress domain start first := by
  induction first generalizing start with
  | nil => exact ⟨by simp [Machine.trace], stays_now runes loader parseAddress domain start second removed⟩
  | cons event rest ih =>
      obtain ⟨now, later⟩ := removed_step runes loader parseAddress domain start event (rest ++ second) removed
      obtain ⟨during, atEnd⟩ := ih _ later
      refine ⟨fun moment member => ?_, atEnd⟩
      rcases List.mem_cons.mp member with here | further
      · rw [here]
        exact now
      · exact during moment further

theorem stays_after (runes : Runes) (loader : Loader Content Hash) (parseAddress : String → Option String)
    (domain : String) (start : World Content Hash) (first : List (Event Content)) (event : Event Content)
    (rest : List (Event Content)) (removed : StaysRemoved runes loader parseAddress domain start (first ++ event :: rest)) :
    Removed runes domain (serve runes loader parseAddress ((server runes loader parseAddress).final start first) event).1 := by
  have split : first ++ event :: rest = (first ++ [event]) ++ rest := by simp
  have reached := (stays_before runes loader parseAddress domain start (first ++ [event]) rest (split ▸ removed)).2
  rwa [Machine.final_append] at reached

theorem run_clean (runes : Runes) (loader : Loader Content Hash) (parseAddress : String → Option String)
    (domain : String) (id : Nat) (start : World Content Hash) (events : List (Event Content))
    (removed : StaysRemoved runes loader parseAddress domain start events)
    (clean : CleanAt domain id start ∨ ∃ remoteAddr hostname, Event.openSession id remoteAddr hostname ∈ events) :
    CleanAt domain id ((server runes loader parseAddress).final start events) := by
  induction events generalizing start with
  | nil => simpa using clean
  | cons event rest ih =>
      obtain ⟨now, later⟩ := removed_step runes loader parseAddress domain start event rest removed
      have next := stays_now runes loader parseAddress domain _ rest later
      refine ih _ later ?_
      rcases clean with clean | ⟨remoteAddr, hostname, opened⟩
      · exact Or.inl (serve_clean runes loader parseAddress domain id start event now next (Or.inl clean))
      · rcases List.mem_cons.mp opened with here | further
        · exact Or.inl (serve_clean runes loader parseAddress domain id start event now next
            (Or.inr ⟨remoteAddr, hostname, here.symm⟩))
        · exact Or.inr ⟨remoteAddr, hostname, further⟩

theorem opened_since_clean (runes : Runes) (loader : Loader Content Hash) (parseAddress : String → Option String)
    (domain : String) (id : Nat) (start : World Content Hash) (events : List (Event Content))
    (removed : StaysRemoved runes loader parseAddress domain start events)
    (opened : OpenedSince ((server runes loader parseAddress).trace start events) id) :
    CleanAt domain id ((server runes loader parseAddress).final start events) := by
  obtain ⟨moment, member, remoteAddr, hostname, isOpen⟩ := opened
  have listed := List.mem_map_of_mem (f := Machine.Moment.event) member
  rw [Machine.trace_events, isOpen] at listed
  exact run_clean runes loader parseAddress domain id start events removed (Or.inr ⟨remoteAddr, hostname, listed⟩)

theorem serve_accepted_iff (runes : Runes) (loader : Loader Content Hash) (parseAddress : String → Option String)
    (domain : String) (world : World Content Hash) (id : Nat) (recipient : String) (addressExists : String → Option Bool)
    (session : Session) (address : String)
    (stays : Removed runes domain (serve runes loader parseAddress world (.rcpt id recipient addressExists)).1)
    (present : world.sessions.lookup id = some session) (parsed : parseAddress recipient = some address)
    (located : recipientDomain runes address = some domain) :
    (serve runes loader parseAddress world (.rcpt id recipient addressExists)).2 = some (.ok ()) ↔
      domain ∈ session.domains ∧ addressExists (runes.lower address) = some true := by
  simp only [serve, present] at stays
  simp only [serve, present, Option.some.injEq]
  rw [rcpt_accepted_iff runes loader parseAddress addressExists session recipient world.file world.watched address domain
    parsed located]
  have known : domain ∈ (session.refreshDomains runes loader domain world.file world.watched).1.domains ↔
      domain ∈ session.domains := by
    constructor
    · intro refreshed
      by_contra clean
      have unknown := rcpt_clean runes loader parseAddress addressExists domain session recipient world.file world.watched
        clean stays
      exact unknown (by rwa [(rcpt_refreshed runes loader parseAddress addressExists session recipient world.file
        world.watched address domain parsed located).1])
    · intro listed
      simp only [Session.refreshDomains, listed, if_true]
  rw [known]

-- Each side speaks about every RCPT since the removal was loaded.
theorem removed_domain_rejected_iff (runes : Runes) (loader : Loader Content Hash)
    (parseAddress : String → Option String) (domain : String) (start : World Content Hash)
    (before after : List (Event Content))
    (removed : StaysRemoved runes loader parseAddress domain
      ((server runes loader parseAddress).final start before) after) :
    (∀ moment ∈ (server runes loader parseAddress).trace ((server runes loader parseAddress).final start before) after,
        NeverAccepted runes parseAddress domain moment) ↔
      ∀ earlier moment later,
        (server runes loader parseAddress).trace ((server runes loader parseAddress).final start before) after =
          earlier ++ moment :: later →
        SnapshotClear runes parseAddress domain earlier moment := by
  generalize (server runes loader parseAddress).final start before = loaded at removed
  rw [Machine.trace_history_iff]
  constructor
  · intro rejected first event rest split id recipient addressExists session address isRcpt present parsed located
    dsimp only at isRcpt present
    subst isRcpt
    refine Or.inr (Classical.or_iff_not_imp_left.mpr fun listed exists_ => ?_)
    have member : (⟨(server runes loader parseAddress).final loaded first, .rcpt id recipient addressExists,
        (serve runes loader parseAddress ((server runes loader parseAddress).final loaded first)
          (.rcpt id recipient addressExists)).2⟩ : Machine.Moment _ _ _) ∈
        (server runes loader parseAddress).trace loaded after := by
      rw [split, Machine.trace_append]
      exact List.mem_append_right _ List.mem_cons_self
    have stays := stays_after runes loader parseAddress domain loaded first (.rcpt id recipient addressExists) rest
      (split ▸ removed)
    exact rejected _ member id recipient addressExists rfl ⟨address, parsed, located⟩
      ((serve_accepted_iff runes loader parseAddress domain _ id recipient addressExists session address stays present
        parsed located).mpr ⟨not_not.mp listed, exists_⟩)
  · intro clear moment member id recipient addressExists isRcpt inDomain accepted
    obtain ⟨first, rest, split⟩ := List.append_of_mem member
    obtain ⟨before', event, after', events_eq, earlier_eq, moment_eq⟩ :=
      Machine.trace_split (server runes loader parseAddress) loaded after first rest moment split
    subst moment_eq
    dsimp only at isRcpt accepted
    subst isRcpt
    obtain ⟨address, parsed, located⟩ := inDomain
    cases present : ((server runes loader parseAddress).final loaded before').sessions.lookup id with
    | none =>
        have silent : (serve runes loader parseAddress ((server runes loader parseAddress).final loaded before')
            (.rcpt id recipient addressExists)).2 = none := by simp only [serve, present]
        exact absurd (silent.symm.trans accepted) (by simp)
    | some session =>
        have stays := stays_after runes loader parseAddress domain loaded before' (.rcpt id recipient addressExists) after'
          (events_eq ▸ removed)
        have old := (serve_accepted_iff runes loader parseAddress domain _ id recipient addressExists session address stays
          present parsed located).mp accepted
        rcases clear before' _ after' events_eq id recipient addressExists session address rfl present parsed located with
          opened | clean | missing
        · exact opened_since_clean runes loader parseAddress domain id loaded before'
            (stays_before runes loader parseAddress domain loaded before' _ (events_eq ▸ removed)) opened session present old.1
        · exact clean old.1
        · exact missing old.2

def removalWorld : World String String where
  file := some secondFile
  watched := ⟨true, some secondFile, some (withDefaults (sampleConfig ["first.test", "second.test"]))⟩
  backend := withDefaults (sampleConfig ["first.test", "second.test"])
  validator := none
  sessions := ∅

def removalEvents : List (Event String) :=
  [.openSession 1 "203.0.113.5:4000" "mx.sender.test", .write (some firstFile), .tick]

theorem removed_domain_accepted :
    StaysRemoved asciiRunes sampleLoader some "second.test"
        ((server asciiRunes sampleLoader some).final removalWorld removalEvents) [sampleRcpt] ∧
      ¬ ∀ moment ∈ (server asciiRunes sampleLoader some).trace
          ((server asciiRunes sampleLoader some).final removalWorld removalEvents) [sampleRcpt],
        NeverAccepted asciiRunes some "second.test" moment := by
  refine ⟨⟨fun moment member => ?_, withDefaults (sampleConfig ["first.test"]), by rfl, by decide⟩, ?_⟩
  · rw [List.mem_singleton.mp member]
    exact ⟨withDefaults (sampleConfig ["first.test"]), by rfl, by decide⟩
  · intro rejected
    exact rejected _ List.mem_cons_self 1 "user@second.test" (fun _ => some true) rfl
      ⟨"user@second.test", rfl, by rfl⟩ (by rfl)

def reconnectEvents : List (Event String) :=
  [.openSession 2 "203.0.113.5:4001" "mx.sender.test", .rcpt 2 "user@second.test" (fun _ => some true)]

theorem removed_domain_rejected_reconnecting :
    StaysRemoved asciiRunes sampleLoader some "second.test"
        ((server asciiRunes sampleLoader some).final removalWorld removalEvents) reconnectEvents ∧
      ((∀ moment ∈ (server asciiRunes sampleLoader some).trace
            ((server asciiRunes sampleLoader some).final removalWorld removalEvents) reconnectEvents,
          NeverAccepted asciiRunes some "second.test" moment) ↔
        ∀ earlier moment later,
          (server asciiRunes sampleLoader some).trace
              ((server asciiRunes sampleLoader some).final removalWorld removalEvents) reconnectEvents =
            earlier ++ moment :: later →
          SnapshotClear asciiRunes some "second.test" earlier moment) := by
  have removed : StaysRemoved asciiRunes sampleLoader some "second.test"
      ((server asciiRunes sampleLoader some).final removalWorld removalEvents) reconnectEvents := by
    refine ⟨fun moment member => ?_, withDefaults (sampleConfig ["first.test"]), by rfl, by decide⟩
    rcases List.mem_cons.mp member with opened | member
    · rw [opened]
      exact ⟨withDefaults (sampleConfig ["first.test"]), by rfl, by decide⟩
    · rw [List.mem_singleton.mp member]
      exact ⟨withDefaults (sampleConfig ["first.test"]), by rfl, by decide⟩
  exact ⟨removed, removed_domain_rejected_iff asciiRunes sampleLoader some "second.test" removalWorld removalEvents
    reconnectEvents removed⟩

end Tempmail.Mx
