import Tempmail.Lib.Machine

set_option autoImplicit false

namespace Tempmail.Mx

-- A file as os.Stat and os.ReadFile see it.
structure StampedFile (Content : Type) where
  modified : Nat
  content : Content
deriving DecidableEq

inductive TlsError where
  | statCert
  | statKey
  | readCert
  | readKey
  | mismatch
deriving DecidableEq

section Certificates

variable {Cert Key : Type}
-- tls.X509KeyPair: the two files parse, and the key is the certificate's.
variable (pairs : Cert → Key → Bool)

structure KeyPair where
  cert : Cert
  key : Key
  matched : pairs cert key = true

structure CertLoader where
  certMod : Nat
  keyMod : Nat
  keyPair : KeyPair pairs

inductive CertCall (Cert : Type) where
  | idle
  | locked
  | certStatted (certMod : Nat)
  | stale (certMod keyMod : Nat)
  | certRead (certMod keyMod : Nat) (cert : Cert)

structure CertFiles (Cert Key : Type) where
  certFile : Option (StampedFile Cert)
  keyFile : Option (StampedFile Key)
  clock : Nat

-- The files, the key renew-hook.sh still has to copy, the loader once it is
-- loaded and the call it is in.
structure CertWorld where
  files : CertFiles Cert Key
  copying : Option Key
  loader : Option (CertLoader pairs)
  call : CertCall Cert

inductive CertEvent where
  | copyCert (renewed : KeyPair pairs)
  | copyKey
  | handshake
  | advance

variable {pairs}

abbrev CertAnswer (pairs : Cert → Key → Bool) := Option (Except TlsError (KeyPair pairs))

namespace CertWorld

def fresh (cert : Option Cert) (key : Option Key) : CertWorld pairs :=
  ⟨⟨cert.map (StampedFile.mk 0), key.map (StampedFile.mk 0), 1⟩, none, none, .idle⟩

def calling (world : CertWorld pairs) (call : CertCall Cert) : CertWorld pairs := { world with call }

def done (world : CertWorld pairs) (answer : Except TlsError (KeyPair pairs)) : CertWorld pairs × CertAnswer pairs :=
  (world.calling .idle, some answer)

-- The two copies of renew-hook.sh, one renewal after the other.
def copyCert (world : CertWorld pairs) (renewed : KeyPair pairs) : CertWorld pairs :=
  match world.copying with
  | none => { world with
      files := ⟨some ⟨world.files.clock, renewed.cert⟩, world.files.keyFile, world.files.clock + 1⟩
      copying := some renewed.key }
  | some _ => world

def copyKey (world : CertWorld pairs) : CertWorld pairs :=
  match world.copying with
  | none => world
  | some key => { world with
      files := ⟨world.files.certFile, some ⟨world.files.clock, key⟩, world.files.clock + 1⟩
      copying := none }

-- A second handshake waits for the mutex.
def handshake (world : CertWorld pairs) : CertWorld pairs :=
  match world.call with
  | .idle => world.calling .locked
  | _ => world

def getCertificate (world : CertWorld pairs) : CertWorld pairs × CertAnswer pairs :=
  match world.call with
  | .idle => (world, none)
  | .locked => match world.files.certFile with
      | none => world.done (.error .statCert)
      | some file => (world.calling (.certStatted file.modified), none)
  | .certStatted certMod => match world.files.keyFile with
      | none => world.done (.error .statKey)
      | some file => match world.loader with
          | none => (world.calling (.stale certMod file.modified), none)
          | some loaded =>
              if certMod = loaded.certMod ∧ file.modified = loaded.keyMod then world.done (.ok loaded.keyPair)
              else (world.calling (.stale certMod file.modified), none)
  | .stale certMod keyMod => match world.files.certFile with
      | none => world.done (.error .readCert)
      | some file => (world.calling (.certRead certMod keyMod file.content), none)
  | .certRead certMod keyMod cert => match world.files.keyFile with
      | none => world.done (.error .readKey)
      | some file =>
          if matched : pairs cert file.content = true then
            { world with loader := some ⟨certMod, keyMod, cert, file.content, matched⟩ }.done (.ok ⟨cert, file.content, matched⟩)
          else world.done (.error .mismatch)

end CertWorld

def starttls : Machine (CertWorld pairs) (CertEvent pairs) (CertAnswer pairs) := ⟨fun world event =>
  match event with
  | .copyCert renewed => (world.copyCert renewed, none)
  | .copyKey => (world.copyKey, none)
  | .handshake => (world.handshake, none)
  | .advance => world.getCertificate⟩

structure Torn (world : CertWorld pairs) (certMod keyMod : Nat) (cert : Cert) (file : StampedFile Key) : Prop where
  call : world.call = .certRead certMod keyMod cert
  there : world.files.keyFile = some file
  apart : pairs cert file.content = false

inductive Ran (world : CertWorld pairs) : CertWorld pairs × CertAnswer pairs → Prop where
  | waits : world.call = .idle → Ran world (world, none)
  | missing (error : TlsError) : world.files.certFile = none ∨ world.files.keyFile = none → Ran world (world.done (.error error))
  | certStatted (file : StampedFile Cert) : world.call = .locked → world.files.certFile = some file →
      Ran world (world.calling (.certStatted file.modified), none)
  | cached (certMod : Nat) (file : StampedFile Key) (loaded : CertLoader pairs) :
      world.call = .certStatted certMod → world.files.keyFile = some file → world.loader = some loaded →
      certMod = loaded.certMod → file.modified = loaded.keyMod → Ran world (world.done (.ok loaded.keyPair))
  | keyStatted (certMod : Nat) (file : StampedFile Key) : world.call = .certStatted certMod → world.files.keyFile = some file →
      Ran world (world.calling (.stale certMod file.modified), none)
  | certRead (certMod keyMod : Nat) (file : StampedFile Cert) : world.call = .stale certMod keyMod →
      world.files.certFile = some file → Ran world (world.calling (.certRead certMod keyMod file.content), none)
  | loaded (certMod keyMod : Nat) (cert : Cert) (file : StampedFile Key) (matched : pairs cert file.content = true) :
      world.call = .certRead certMod keyMod cert → world.files.keyFile = some file →
      Ran world ({ world with loader := some ⟨certMod, keyMod, cert, file.content, matched⟩ }.done
        (.ok ⟨cert, file.content, matched⟩))
  | torn (certMod keyMod : Nat) (cert : Cert) (file : StampedFile Key) : Torn world certMod keyMod cert file →
      Ran world (world.done (.error .mismatch))

theorem get_certificate_ran (world : CertWorld pairs) : Ran world world.getCertificate := by
  unfold CertWorld.getCertificate
  split
  · next call => exact .waits call
  · next call =>
      split
      · next none => exact .missing _ (Or.inl none)
      · next file there => exact .certStatted file call there
  · next certMod call =>
      split
      · next none => exact .missing _ (Or.inr none)
      · next file there =>
          split
          · exact .keyStatted certMod file call there
          · next loaded held =>
              split
              · next same => exact .cached certMod file loaded call there held same.1 same.2
              · exact .keyStatted certMod file call there
  · next certMod keyMod call =>
      split
      · next none => exact .missing _ (Or.inl none)
      · next file there => exact .certRead certMod keyMod file call there
  · next certMod keyMod cert call =>
      split
      · next none => exact .missing _ (Or.inr none)
      · next file there =>
          split
          · next matched => exact .loaded certMod keyMod cert file matched call there
          · next apart => exact .torn certMod keyMod cert file ⟨call, there, Bool.eq_false_iff.mpr apart⟩

structure Seen {Content : Type} (file : Option (StampedFile Content)) (clock stamp : Nat) (content : Content) : Prop where
  past : stamp < clock
  same : ∀ now, file = some now → now.modified = stamp → now.content = content

theorem seen_read {Content : Type} (file : StampedFile Content) (clock stamp : Nat) (past : stamp < clock) :
    Seen (some file) clock stamp file.content :=
  ⟨past, fun _ here _ => by rw [← Option.some.inj here]⟩

theorem seen_waits {Content : Type} (file : Option (StampedFile Content)) (clock stamp : Nat) (content : Content)
    (seen : Seen file clock stamp content) : Seen file (clock + 1) stamp content :=
  ⟨Nat.lt_succ_of_lt seen.past, seen.same⟩

theorem seen_written {Content : Type} (file : Option (StampedFile Content)) (clock stamp : Nat) (content written : Content)
    (seen : Seen file clock stamp content) : Seen (some ⟨clock, written⟩) (clock + 1) stamp content := by
  refine ⟨Nat.lt_succ_of_lt seen.past, fun now here stamped => ?_⟩
  rw [← Option.some.inj here] at stamped
  exact absurd stamped (Nat.ne_of_gt seen.past)

structure Cached (files : CertFiles Cert Key) (loaded : CertLoader pairs) : Prop where
  certThere : files.certFile ≠ none
  keyThere : files.keyFile ≠ none
  cert : Seen files.certFile files.clock loaded.certMod loaded.keyPair.cert
  key : Seen files.keyFile files.clock loaded.keyMod loaded.keyPair.key

def CallSound (files : CertFiles Cert Key) : CertCall Cert → Prop
  | .idle | .locked => True
  | .certStatted certMod => certMod < files.clock
  | .stale certMod keyMod => certMod < files.clock ∧ keyMod < files.clock
  | .certRead certMod keyMod cert => Seen files.certFile files.clock certMod cert ∧ keyMod < files.clock ∧ files.certFile ≠ none

structure FilesPast (files : CertFiles Cert Key) : Prop where
  cert : ∀ file, files.certFile = some file → file.modified < files.clock
  key : ∀ file, files.keyFile = some file → file.modified < files.clock

structure CertSound (world : CertWorld pairs) : Prop where
  past : FilesPast world.files
  cached : ∀ loaded, world.loader = some loaded → Cached world.files loaded
  called : CallSound world.files world.call

theorem fresh_sound (cert : Option Cert) (key : Option Key) : CertSound (CertWorld.fresh cert key : CertWorld pairs) := by
  refine ⟨⟨fun file here => ?_, fun file here => ?_⟩, nofun, trivial⟩
  · obtain ⟨content, -, made⟩ := Option.map_eq_some_iff.mp here
    subst made
    exact Nat.one_pos
  · obtain ⟨content, -, made⟩ := Option.map_eq_some_iff.mp here
    subst made
    exact Nat.one_pos

structure Copied (files after : CertFiles Cert Key) : Prop where
  clock : after.clock = files.clock + 1
  certThere : files.certFile ≠ none → after.certFile ≠ none
  keyThere : files.keyFile ≠ none → after.keyFile ≠ none
  cert : ∀ stamp content, Seen files.certFile files.clock stamp content → Seen after.certFile after.clock stamp content
  key : ∀ stamp content, Seen files.keyFile files.clock stamp content → Seen after.keyFile after.clock stamp content
  past : FilesPast files → FilesPast after

theorem cert_copied (files : CertFiles Cert Key) (cert : Cert) :
    Copied files ⟨some ⟨files.clock, cert⟩, files.keyFile, files.clock + 1⟩ := by
  refine ⟨rfl, nofun, id, fun stamp content => seen_written _ _ _ _ _, fun stamp content => seen_waits _ _ _ _, ?_⟩
  refine fun past => ⟨fun file here => ?_, fun file here => Nat.lt_succ_of_lt (past.key file here)⟩
  rw [← Option.some.inj here]
  exact Nat.lt_succ_self files.clock

theorem key_copied (files : CertFiles Cert Key) (key : Key) :
    Copied files ⟨files.certFile, some ⟨files.clock, key⟩, files.clock + 1⟩ := by
  refine ⟨rfl, id, nofun, fun stamp content => seen_waits _ _ _ _, fun stamp content => seen_written _ _ _ _ _, ?_⟩
  refine fun past => ⟨fun file here => Nat.lt_succ_of_lt (past.cert file here), fun file here => ?_⟩
  rw [← Option.some.inj here]
  exact Nat.lt_succ_self files.clock

theorem copied_sound (world : CertWorld pairs) (after : CertFiles Cert Key) (copying : Option Key)
    (copied : Copied world.files after) (sound : CertSound world) : CertSound { world with files := after, copying } := by
  have later : ∀ stamp, stamp < world.files.clock → stamp < after.clock := fun stamp past => by
    rw [copied.clock]
    exact Nat.lt_succ_of_lt past
  refine ⟨copied.past sound.past, fun loaded held => ?_, ?_⟩
  · have cached := sound.cached loaded held
    exact ⟨copied.certThere cached.certThere, copied.keyThere cached.keyThere, copied.cert _ _ cached.cert,
      copied.key _ _ cached.key⟩
  · have called := sound.called
    show CallSound after world.call
    cases call : world.call with
    | idle => trivial
    | locked => trivial
    | certStatted certMod =>
        rw [call] at called
        exact later certMod called
    | stale certMod keyMod =>
        rw [call] at called
        exact ⟨later certMod called.1, later keyMod called.2⟩
    | certRead certMod keyMod cert =>
        rw [call] at called
        exact ⟨copied.cert certMod cert called.1, later keyMod called.2.1, copied.certThere called.2.2⟩

theorem copy_cert_sound (world : CertWorld pairs) (renewed : KeyPair pairs) (sound : CertSound world) :
    CertSound (world.copyCert renewed) := by
  unfold CertWorld.copyCert
  split
  · exact copied_sound world _ _ (cert_copied world.files renewed.cert) sound
  · exact sound

theorem copy_key_sound (world : CertWorld pairs) (sound : CertSound world) : CertSound world.copyKey := by
  unfold CertWorld.copyKey
  split
  · exact sound
  · next key _ => exact copied_sound world _ _ (key_copied world.files key) sound

theorem calling_sound (world : CertWorld pairs) (call : CertCall Cert) (sound : CertSound world)
    (called : CallSound world.files call) :
    CertSound (world.calling call) := ⟨sound.past, sound.cached, called⟩

theorem handshake_sound (world : CertWorld pairs) (sound : CertSound world) : CertSound world.handshake := by
  unfold CertWorld.handshake
  split
  · exact calling_sound world .locked sound trivial
  · exact sound

theorem get_certificate_sound (world : CertWorld pairs) (sound : CertSound world) : CertSound world.getCertificate.1 := by
  have called := sound.called
  have ran := get_certificate_ran world
  generalize world.getCertificate = result at ran ⊢
  cases ran with
  | waits _ => exact sound
  | missing _ _ => exact calling_sound world .idle sound trivial
  | cached _ _ _ _ _ _ _ _ => exact calling_sound world .idle sound trivial
  | torn _ _ _ _ _ => exact calling_sound world .idle sound trivial
  | certStatted file _ there => exact calling_sound world _ sound (sound.past.cert file there)
  | keyStatted certMod file call there =>
      rw [call] at called
      exact calling_sound world _ sound ⟨called, sound.past.key file there⟩
  | certRead certMod keyMod file call there =>
      rw [call] at called
      refine calling_sound world _ sound ⟨?_, called.2, ?_⟩
      · rw [there]
        exact seen_read file world.files.clock certMod called.1
      · rw [there]
        nofun
  | loaded certMod keyMod cert file matched call there =>
      rw [call] at called
      refine ⟨sound.past, fun loaded held => ?_, trivial⟩
      rw [← Option.some.inj held]
      refine ⟨called.2.2, ?_, called.1, ?_⟩
      · show world.files.keyFile ≠ none
        rw [there]
        nofun
      · show Seen world.files.keyFile world.files.clock keyMod file.content
        rw [there]
        exact seen_read file world.files.clock keyMod called.2.1

theorem starttls_step_sound (world : CertWorld pairs) (event : CertEvent pairs) (sound : CertSound world) :
    CertSound (starttls.step world event).1 := by
  cases event with
  | copyCert renewed => exact copy_cert_sound world renewed sound
  | copyKey => exact copy_key_sound world sound
  | handshake => exact handshake_sound world sound
  | advance => exact get_certificate_sound world sound

theorem loaded_stays (world : CertWorld pairs) (event : CertEvent pairs) (held : world.loader ≠ none) :
    (starttls.step world event).1.loader ≠ none := by
  cases event with
  | copyCert renewed =>
      show (world.copyCert renewed).loader ≠ none
      unfold CertWorld.copyCert
      split <;> exact held
  | copyKey =>
      show world.copyKey.loader ≠ none
      unfold CertWorld.copyKey
      split <;> exact held
  | handshake =>
      show world.handshake.loader ≠ none
      unfold CertWorld.handshake
      split <;> exact held
  | advance =>
      have ran := get_certificate_ran world
      show world.getCertificate.1.loader ≠ none
      generalize world.getCertificate = result at ran ⊢
      cases ran with
      | loaded => exact Option.some_ne_none _
      | _ => exact held

theorem success_loads (world : CertWorld pairs) (event : CertEvent pairs) (pair : KeyPair pairs)
    (answered : (starttls.step world event).2 = some (.ok pair)) : (starttls.step world event).1.loader ≠ none := by
  cases event with
  | copyCert renewed => cases answered
  | copyKey => cases answered
  | handshake => cases answered
  | advance =>
      have ran := get_certificate_ran world
      change world.getCertificate.2 = _ at answered
      show world.getCertificate.1.loader ≠ none
      generalize world.getCertificate = result at ran answered ⊢
      cases ran with
      | loaded => exact Option.some_ne_none _
      | cached _ _ loaded _ _ held _ _ =>
          show world.loader ≠ none
          rw [held]
          nofun
      | missing _ _ => cases answered
      | torn _ _ _ _ _ => cases answered
      | waits _ => cases answered
      | certStatted _ _ _ => cases answered
      | keyStatted _ _ _ _ => cases answered
      | certRead _ _ _ _ _ => cases answered

-- With the loader loaded, a call fails on a torn pair alone.
theorem failure_torn (world : CertWorld pairs) (sound : CertSound world) (held : world.loader ≠ none) (error : TlsError)
    (answered : world.getCertificate.2 = some (.error error)) :
    ∃ certMod keyMod cert file, Torn world certMod keyMod cert file := by
  obtain ⟨loaded, holds⟩ := Option.ne_none_iff_exists'.mp held
  have cached := sound.cached loaded holds
  have ran := get_certificate_ran world
  generalize world.getCertificate = result at ran answered
  cases ran with
  | torn certMod keyMod cert file torn => exact ⟨certMod, keyMod, cert, file, torn⟩
  | missing _ absent => exact absurd absent (not_or.mpr ⟨cached.certThere, cached.keyThere⟩)
  | waits _ => cases answered
  | certStatted _ _ _ => cases answered
  | cached _ _ _ _ _ _ _ _ => cases answered
  | keyStatted _ _ _ _ => cases answered
  | certRead _ _ _ _ _ => cases answered
  | loaded _ _ _ _ _ _ _ => cases answered

theorem torn_fails (world : CertWorld pairs) (certMod keyMod : Nat) (cert : Cert) (file : StampedFile Key)
    (torn : Torn world certMod keyMod cert file) : world.getCertificate.2 = some (.error .mismatch) := by
  have apart : ¬ pairs cert file.content = true := by rw [torn.apart]; decide
  rw [CertWorld.getCertificate, torn.call]
  simp only [torn.there, dif_neg apart]
  rfl

def SawOnly (cert : StampedFile Cert) (key : StampedFile Key) : CertCall Cert → Prop
  | .idle | .locked => True
  | .certStatted certMod => certMod = cert.modified
  | .stale certMod keyMod => certMod = cert.modified ∧ keyMod = key.modified
  | .certRead _ _ read => read = cert.content

structure OnDisk (files : CertFiles Cert Key) (cert : StampedFile Cert) (key : StampedFile Key) : Prop where
  cert : files.certFile = some cert
  key : files.keyFile = some key

theorem saw_only_step (cert : StampedFile Cert) (key : StampedFile Key) (world : CertWorld pairs) (event : CertEvent pairs)
    (disk : OnDisk world.files cert key) (saw : SawOnly cert key world.call) :
    SawOnly cert key (starttls.step world event).1.call := by
  cases event with
  | copyCert renewed =>
      show SawOnly cert key (world.copyCert renewed).call
      unfold CertWorld.copyCert
      split <;> exact saw
  | copyKey =>
      show SawOnly cert key world.copyKey.call
      unfold CertWorld.copyKey
      split <;> exact saw
  | handshake =>
      show SawOnly cert key world.handshake.call
      unfold CertWorld.handshake
      split
      · trivial
      · exact saw
  | advance =>
      have ran := get_certificate_ran world
      show SawOnly cert key world.getCertificate.1.call
      generalize world.getCertificate = result at ran ⊢
      cases ran with
      | waits _ => exact saw
      | missing _ _ => trivial
      | cached _ _ _ _ _ _ _ _ => trivial
      | loaded _ _ _ _ _ _ _ => trivial
      | torn _ _ _ _ _ => trivial
      | certStatted file _ there =>
          have same := Option.some.inj (there.symm.trans disk.cert)
          exact congrArg StampedFile.modified same
      | keyStatted certMod file call there =>
          rw [call] at saw
          have same := Option.some.inj (there.symm.trans disk.key)
          exact ⟨saw, congrArg StampedFile.modified same⟩
      | certRead certMod keyMod file call there =>
          have same := Option.some.inj (there.symm.trans disk.cert)
          exact congrArg StampedFile.content same

theorem saw_only_answer (cert : StampedFile Cert) (key : StampedFile Key) (world : CertWorld pairs)
    (sound : CertSound world) (disk : OnDisk world.files cert key) (saw : SawOnly cert key world.call)
    (matched : pairs cert.content key.content = true) (answer : Except TlsError (KeyPair pairs))
    (answered : world.getCertificate.2 = some answer) : answer = .ok ⟨cert.content, key.content, matched⟩ := by
  have ran := get_certificate_ran world
  generalize world.getCertificate = result at ran answered
  cases ran with
  | waits _ => cases answered
  | certStatted _ _ _ => cases answered
  | keyStatted _ _ _ _ => cases answered
  | certRead _ _ _ _ _ => cases answered
  | missing _ absent =>
      rw [disk.cert, disk.key] at absent
      exact absurd absent (by simp)
  | torn certMod keyMod read file torn =>
      have apart := torn.apart
      rw [torn.call] at saw
      rw [show read = cert.content from saw, Option.some.inj (torn.there.symm.trans disk.key), matched] at apart
      exact absurd apart nofun
  | loaded certMod keyMod read file paired call there =>
      rw [call] at saw
      have same := Option.some.inj (there.symm.trans disk.key)
      subst same
      cases show read = cert.content from saw
      exact (Option.some.inj answered).symm
  | cached certMod file loaded call there held certSame keySame =>
      rw [call] at saw
      have cached := sound.cached loaded held
      have same := Option.some.inj (there.symm.trans disk.key)
      have certKept : cert.content = loaded.keyPair.cert := cached.cert.same cert disk.cert (saw.symm.trans certSame)
      have keyKept : key.content = loaded.keyPair.key :=
        cached.key.same key disk.key ((congrArg StampedFile.modified same).symm.trans keySame)
      rw [← Option.some.inj answered]
      congr 1
      cases pair : loaded.keyPair with
      | mk kept keptKey kept_matched =>
          rw [pair] at certKept keyKept
          subst certKept keyKept
          rfl

abbrev CertMoment (pairs : Cert → Key → Bool) := Machine.Moment (CertWorld pairs) (CertEvent pairs) (CertAnswer pairs)

def Succeeded (earlier : List (CertMoment pairs)) : Prop := ∃ moment ∈ earlier, ∃ pair, moment.answer = some (.ok pair)

-- Every call after a first success succeeds with a matching pair, and a call
-- returns the pair on disk that was there and matching from its start.
structure KeepsWorking (cert : Option Cert) (key : Option Key) (events : List (CertEvent pairs)) : Prop where
  steady : ∀ earlier moment later, starttls.trace (CertWorld.fresh cert key) events = earlier ++ moment :: later →
    Succeeded earlier → ∀ answer, moment.answer = some answer →
      ∃ pair : KeyPair pairs, answer = .ok pair ∧ pairs pair.cert pair.key = true
  current : ∀ before during event after, events = before ++ (during ++ event :: after) →
    (starttls.final (CertWorld.fresh cert key) before).call = .idle →
    ∀ certFile keyFile, (matched : pairs certFile.content keyFile.content = true) →
    (∀ moment ∈ starttls.trace (starttls.final (CertWorld.fresh cert key) before) (during ++ [event]),
      OnDisk moment.before.files certFile keyFile) →
    ∀ answer, (starttls.step (starttls.final (CertWorld.fresh cert key) (before ++ during)) event).2 = some answer →
      answer = .ok ⟨certFile.content, keyFile.content, matched⟩

theorem starttls_run_sound (world : CertWorld pairs) (events : List (CertEvent pairs)) (sound : CertSound world) :
    CertSound (starttls.final world events) :=
  (starttls.invariant_run CertSound (fun _ => True) (fun state event _ => starttls_step_sound state event) world events
    (fun _ _ => trivial) sound).1

theorem advance_answered (world : CertWorld pairs) (event : CertEvent pairs) (answer : Except TlsError (KeyPair pairs))
    (answered : (starttls.step world event).2 = some answer) : event = .advance ∧ world.getCertificate.2 = some answer := by
  cases event with
  | advance => exact ⟨rfl, answered⟩
  | copyCert renewed => cases answered
  | copyKey => cases answered
  | handshake => cases answered

theorem returns_current (cert : Option Cert) (key : Option Key) (before during : List (CertEvent pairs)) (event : CertEvent pairs)
    (idle : (starttls.final (CertWorld.fresh cert key) before).call = .idle) (certFile : StampedFile Cert)
    (keyFile : StampedFile Key)
    (matched : pairs certFile.content keyFile.content = true)
    (disk : ∀ moment ∈ starttls.trace (starttls.final (CertWorld.fresh cert key) before) (during ++ [event]),
      OnDisk moment.before.files certFile keyFile)
    (answer : Except TlsError (KeyPair pairs))
    (answered : (starttls.step (starttls.final (CertWorld.fresh cert key) (before ++ during)) event).2 = some answer) :
    answer = .ok ⟨certFile.content, keyFile.content, matched⟩ := by
  have sound := starttls_run_sound _ (before ++ during) (fresh_sound cert key)
  rw [Machine.final_append] at sound answered
  have saw : SawOnly certFile keyFile (starttls.final (starttls.final (CertWorld.fresh cert key) before) during).call := by
    refine starttls.invariant_along (fun world => SawOnly certFile keyFile world.call)
      (fun world _ => OnDisk world.files certFile keyFile)
      (fun world event => saw_only_step certFile keyFile world event) _ during ?_ ?_
    · exact fun moment member => disk moment (Machine.trace_prefix starttls _ during [event] moment member)
    · rw [idle]
      trivial
  have now := disk _ (Machine.trace_here starttls _ during event [])
  exact saw_only_answer certFile keyFile _ sound now saw matched answer (advance_answered _ event answer answered).2

-- STARTTLS keeps working exactly in the runs where, after the first success, no
-- call reads a key that does not belong to the certificate it has read.
theorem keeps_working_iff (cert : Option Cert) (key : Option Key) (events : List (CertEvent pairs)) :
    KeepsWorking cert key events ↔
      ∀ earlier moment later, starttls.trace (CertWorld.fresh cert key) events = earlier ++ moment :: later → Succeeded earlier →
        moment.event = .advance → ∀ certMod keyMod read file, ¬ Torn moment.before certMod keyMod read file := by
  constructor
  · intro works earlier moment later split succeeded advances certMod keyMod read file torn
    have answered := starttls.trace_answer (CertWorld.fresh cert key) events moment (by rw [split]; simp)
    rw [advances] at answered
    obtain ⟨pair, returned, -⟩ := works.steady earlier moment later split succeeded (.error .mismatch)
      (answered.trans (torn_fails moment.before certMod keyMod read file torn))
    cases returned
  · intro whole
    refine ⟨fun earlier moment later split succeeded answer answered => ?_, ?_⟩
    · obtain ⟨before, event, after, -, earlier_eq, moment_eq⟩ := starttls.trace_split _ events earlier later moment split
      have intact := whole earlier moment later split succeeded
      rw [moment_eq] at answered intact
      obtain ⟨advances, returned⟩ := advance_answered _ event answer answered
      cases answer with
      | ok pair => exact ⟨pair, rfl, pair.matched⟩
      | error error =>
          have sound := starttls_run_sound _ before (fresh_sound cert key)
          obtain ⟨success, member, pair, ok⟩ := succeeded
          rw [earlier_eq] at member
          have held := starttls.established_run (fun world => world.loader ≠ none) (fun moment => moment.answer = some (.ok pair))
            loaded_stays (fun state event => success_loads state event pair) _ before success member ok
          obtain ⟨certMod, keyMod, read, file, torn⟩ := failure_torn _ sound held error returned
          exact absurd torn (intact advances certMod keyMod read file)
    · intro before during event after _ idle certFile keyFile matched disk answer
      exact returns_current cert key before during event idle certFile keyFile matched disk answer

end Certificates

-- A call succeeds; then a renewal has copied its certificate, but not yet its key.
def halfRenewed : List (CertEvent (fun cert key : Nat => cert == key)) :=
  [.handshake, .advance, .advance, .advance, .advance, .copyCert ⟨2, 2, rfl⟩, .handshake, .advance, .advance, .advance, .advance]

theorem handshake_fails : ¬ ∀ (Cert Key : Type) (pairs : Cert → Key → Bool) (cert : Option Cert) (key : Option Key)
    (events : List (CertEvent pairs)), KeepsWorking cert key events := by
  intro claimed
  have works := claimed Nat Nat (fun cert key => cert == key) (some 1) (some 1) halfRenewed
  have later := (starttls.trace_history_iff _ halfRenewed _).mp works.steady halfRenewed.dropLast .advance [] rfl
  obtain ⟨pair, returned, -⟩ :=
    later ⟨_, starttls.trace_here _ [.handshake, .advance, .advance, .advance] .advance _, ⟨1, 1, rfl⟩, rfl⟩
    (.error .mismatch) rfl
  cases returned

end Tempmail.Mx
