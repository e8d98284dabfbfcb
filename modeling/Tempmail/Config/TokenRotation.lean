import Tempmail.Api.AdminAuth
import Tempmail.Config.Served
import Tempmail.Config.WellFormed
import Tempmail.Lib.FieldValue

set_option autoImplicit false

namespace Tempmail.Config

open Api (Python Deployment requireAdmin bearerToken)
open FieldValue (Charset)

def authorizationText (token : String) : List Char := ("Bearer " ++ token).toList

-- A request whose Authorization header carries the token, written in a charset,
-- gets through the server's header parser and past require_admin.
def Admits (takes : List UInt8 → Bool) (charset : Charset) (deployment : Deployment) (token : String) : Prop :=
  ∃ value, charset.encode (authorizationText token) = some value ∧ takes value = true ∧
    requireAdmin deployment (some (String.ofList (FieldValue.decode (FieldValue.trim value)))) = .ok ()

structure Portable (takes : List UInt8 → Bool) (charset : Charset) (token : String) : Prop where
  kept : ∀ c ∈ token.toList, charset.kept c = true
  ending : ∀ last, token.toList.getLast? = some last → last ≠ ' ' ∧ last ≠ '\t'
  taken : ∀ value, charset.encode (authorizationText token) = some value → takes value = true

theorem authorization_chars (token : String) : authorizationText token = 'B' :: ("earer ".toList ++ token.toList) := by
  rw [authorizationText, String.toList_append]
  rfl

theorem bearer_iff (chars : List Char) (token : String) :
    bearerToken (some (String.ofList chars)) = some token ↔ chars = authorizationText token := by
  have lead : "Bearer ".toList.length = "Bearer ".length := rfl
  have plain : (String.ofList chars).toList = chars := String.toList_ofList
  rw [bearerToken, authorizationText, String.toList_append, Text.hasPrefix, plain, ← lead]
  constructor
  · intro found
    obtain ⟨leads, rest⟩ := Option.ite_none_right_eq_some.mp found
    obtain ⟨after, split⟩ := List.isPrefixOf_iff_prefix.mp leads
    rw [← split, List.drop_left] at rest
    have after_eq : after = token.toList := by
      rw [← Option.some.inj rest]
      exact String.toList_ofList.symm
    rw [← after_eq, split]
  · intro same
    rw [same, if_pos (List.isPrefixOf_iff_prefix.mpr (List.prefix_append _ _)), List.drop_left, String.ofList_toList]

theorem lead_kept (charset : Charset) (token : String) :
    (∀ c ∈ authorizationText token, charset.kept c = true) ↔ ∀ c ∈ token.toList, charset.kept c = true := by
  have lead : ∀ c ∈ "Bearer ".toList, charset.kept c = true := by
    apply List.all_eq_true.mp
    cases charset <;> decide
  rw [authorizationText, String.toList_append]
  exact ⟨fun all c member => all c (List.mem_append_right _ member),
    fun all c member => (List.mem_append.mp member).elim (lead c) (all c)⟩

theorem kept_holds (charset : Charset) (c : Char) (kept : charset.kept c = true) : charset.holds c = true := by
  cases charset with
  | utf8 => rfl
  | latin1 => exact kept

theorem authorization_last (token : String) (nonempty : token ≠ "") :
    ∃ last, (authorizationText token).getLast? = some last ∧ token.toList.getLast? = some last := by
  have chars : token.toList ≠ [] := fun empty => nonempty (String.toList_inj.mp empty)
  refine ⟨token.toList.getLast chars, ?_, List.getLast?_eq_getLast_of_ne_nil chars⟩
  rw [authorizationText, String.toList_append, List.getLast?_append_of_ne_nil _ chars]
  exact List.getLast?_eq_getLast_of_ne_nil chars

theorem admits_iff (takes : List UInt8 → Bool) (charset : Charset) (deployment : Deployment) (token : String)
    (expects : deployment.adminToken = token) (nonempty : token ≠ "") :
    Admits takes charset deployment token ↔ Portable takes charset token := by
  obtain ⟨last, ending, tokenEnds⟩ := authorization_last token nonempty
  have admitted : ∀ value, charset.encode (authorizationText token) = some value →
      (requireAdmin deployment (some (String.ofList (FieldValue.decode (FieldValue.trim value)))) = .ok () ↔
        (∀ c ∈ token.toList, charset.kept c = true) ∧ last ≠ ' ' ∧ last ≠ '\t') := by
    intro value sent
    rw [Api.require_admin_ok_iff, expects, bearer_iff, and_iff_right nonempty, ← lead_kept]
    rw [authorization_chars] at ending sent ⊢
    exact FieldValue.arrives_iff charset 'B' _ last ⟨by decide, by decide⟩ ending value sent
  constructor
  · rintro ⟨value, sent, taken, passes⟩
    obtain ⟨kept, dense⟩ := (admitted value sent).mp passes
    refine ⟨kept, fun other here => ?_, fun other same => ?_⟩
    · rw [Option.some.inj (here.symm.trans tokenEnds)]
      exact dense
    · rw [Option.some.inj (same.symm.trans sent)]
      exact taken
  · intro portable
    have holds : (authorizationText token).all charset.holds = true :=
      List.all_eq_true.mpr fun c member => kept_holds charset c ((lead_kept charset token).mpr portable.kept c member)
    have sent : charset.encode (authorizationText token) = some ((authorizationText token).flatMap charset.code) := if_pos holds
    exact ⟨_, sent, portable.taken _ sent, (admitted _ sent).mpr ⟨portable.kept, portable.ending last tokenEnds⟩⟩

theorem setting_usable (config value : Value) (outer key : String) (held : config.setting outer key = some value) :
    config.usable = true := by
  obtain ⟨nested, top, -⟩ := Option.bind_eq_some_iff.mp held
  cases config with
  | map entries =>
      cases entries with
      | nil => cases top
      | cons entry rest => rfl
  | _ => cases top

theorem committed_setting (yaml : Yaml) (first second : Disk) (patched value : Value) (files left : ConfigFiles)
    (settings loaded : Settings) (name : Attribute) (index : Nat) (outer key : String) (fallback : Value)
    (here : assignments = assignments.take index ++ .nested name outer key fallback :: assignments.drop (index + 1))
    (apart : (assignments.drop (index + 1)).all (fun other => other.target != name) = true)
    (reads : yaml.Reads patched) (held : patched.setting outer key = some value)
    (committed : commitConfig yaml first second patched files settings = (.ok (), left, loaded)) : loaded name = value := by
  obtain ⟨main, reloaded⟩ := commit_ok yaml first second patched files left settings loaded committed
  have parsed : opened yaml left.main = .ok patched := by
    rw [main]
    exact reads
  rw [reloadSettings, load_usable yaml left.main patched parsed (setting_usable patched value outer key held)] at reloaded
  cases shape : reloadable patched with
  | error raised =>
      simp only [shape] at reloaded
      cases reloaded
  | ok done =>
      simp only [shape] at reloaded
      have shaped : wellShaped patched assignments := (apply_outcome patched settings).answer.mp (by rw [← apply, reloaded])
      have given := setting_loaded patched settings index name outer key fallback here apart shaped
      rwa [reloaded, held, Option.getD_some] at given

theorem token_nonempty (held : Value) (token : String) (checked : checkEntry held "admin" "token" (.str token) = .ok ()) :
    token ≠ "" := by
  intro empty
  have refused : checkEntry held "admin" "token" (.str "") = .error (.valueError "admin.token 必须是 8-128 字符的字符串") := rfl
  rw [empty, refused] at checked
  cases checked

-- A token that apply_patch accepted and that was committed admits its bearer
-- exactly when a header brings it as it is.
theorem rotation_admits_iff (yaml : Yaml) (python : Python) (takes : List UInt8 → Bool) (charset : Charset)
    (config patch patched : Value) (changes : Changes) (token : String) (first second : Disk) (files left : ConfigFiles)
    (settings loaded : Settings) (deployment : Deployment)
    (applied : applyPatch python config patch = .ok (patched, changes))
    (offered : patch.offers "admin" "token" = some (.str token)) (reads : yaml.Reads patched)
    (committed : commitConfig yaml first second patched files settings = (.ok (), left, loaded))
    (expects : loaded .adminToken = .str deployment.adminToken) :
    Admits takes charset deployment token ↔ Portable takes charset token := by
  obtain ⟨patching, -⟩ := patch_applied python config patch (patched, changes) applied
  have held : patched.setting "admin" "token" = some (.str token) := by
    have stored := patching.settings "admin" "token"
    rw [offered] at stored
    exact stored
  have now := committed_setting yaml first second patched (.str token) files left settings loaded .adminToken 1 "admin" "token"
    (.str "") rfl rfl reads held committed
  have same : deployment.adminToken = token := by
    rw [expects] at now
    exact Value.str.inj now
  obtain ⟨-, before, checked⟩ := patching.offered "admin" "token" (.str token) offered
  exact admits_iff takes charset deployment token same (token_nonempty before token checked)

def tokenConfig (token : String) : Value :=
  .map [(.str "domains", words ["a.org"]), (.str "admin", .map [(.str "token", .str token)])]

def tokenPatch (token : String) : Value := .map [(.str "admin", .map [(.str "token", .str token)])]

def tokenYaml (token : String) : Yaml := documentYaml [tokenConfig "first-token", tokenConfig token]

def tokenFiles : ConfigFiles := ⟨some (blockDump (tokenConfig "first-token")), none⟩

def tokenDeployment (token : String) : Deployment := ⟨false, token, fun _ => none⟩

theorem token_reads (token : String)
    (apart : blockDump (tokenConfig "first-token") ≠ blockDump (tokenConfig token)) (config : Value)
    (known : config ∈ [tokenConfig "first-token", tokenConfig token]) : (tokenYaml token).Reads config :=
  document_reads _ (List.pairwise_pair.mpr apart) config known

theorem token_committed (token : String) (apart : blockDump (tokenConfig "first-token") ≠ blockDump (tokenConfig token)) :
    commitConfig (tokenYaml token) .fine .fine (tokenConfig token) tokenFiles (settingsOf (tokenConfig "first-token")) =
      (.ok (), ⟨some (blockDump (tokenConfig token)), copyBackup .fine tokenFiles⟩, settingsOf (tokenConfig token)) := by
  have first : opened (tokenYaml token) tokenFiles.main = .ok (tokenConfig "first-token") :=
    token_reads token apart (tokenConfig "first-token") (by simp)
  have written : writeConfig (tokenYaml token) .fine tokenFiles (tokenConfig token) =
    (.ok (), ⟨some (blockDump (tokenConfig token)), copyBackup .fine tokenFiles⟩) := rfl
  have reads := token_reads token apart (tokenConfig token) (by simp)
  have reload := reload_accepted (tokenYaml token) ⟨some (blockDump (tokenConfig token)), copyBackup .fine tokenFiles⟩
    (settingsOf (tokenConfig "first-token")) (tokenConfig token) reads ⟨rfl, rfl⟩
  simp only [commitConfig, read_usable (tokenYaml token) tokenFiles _ first rfl, written, reload]

theorem second_admitted : Admits (fun _ => true) .utf8 (tokenDeployment "second-token") "second-token" := by
  have apart : blockDump (tokenConfig "first-token") ≠ blockDump (tokenConfig "second-token") := by decide +kernel
  refine (rotation_admits_iff (tokenYaml "second-token") Api.asciiPython (fun _ => true) .utf8 (tokenConfig "first-token")
    (tokenPatch "second-token") (tokenConfig "second-token") [("admin", "token")] "second-token" .fine .fine tokenFiles _ _ _
    (tokenDeployment "second-token") rfl rfl (token_reads "second-token" apart _ (by simp))
      (token_committed "second-token" apart) rfl).mpr ?_
  exact ⟨List.all_eq_true.mp (by decide +kernel), fun last here => by cases here; decide, fun _ _ => rfl⟩

-- apply_patch measures a token without its trailing space and stores it with it.
theorem trailing_space_locked_out : ¬ ∀ (yaml : Yaml) (python : Python) (takes : List UInt8 → Bool) (charset : Charset)
    (config patch patched : Value) (changes : Changes) (token : String) (first second : Disk) (files left : ConfigFiles)
    (settings loaded : Settings) (deployment : Deployment),
    applyPatch python config patch = .ok (patched, changes) → patch.offers "admin" "token" = some (.str token) →
    yaml.Reads patched → commitConfig yaml first second patched files settings = (.ok (), left, loaded) →
    loaded .adminToken = .str deployment.adminToken → Admits takes charset deployment token := by
  intro claimed
  have apart : blockDump (tokenConfig "first-token") ≠ blockDump (tokenConfig "second-token ") := by decide +kernel
  have admitted := claimed (tokenYaml "second-token ") Api.asciiPython (fun _ => true) .utf8 (tokenConfig "first-token")
    (tokenPatch "second-token ") (tokenConfig "second-token ") [("admin", "token")] "second-token " .fine .fine tokenFiles _ _ _
    (tokenDeployment "second-token ") rfl rfl (token_reads "second-token " apart _ (by simp))
      (token_committed "second-token " apart) rfl
  have portable :=
    (admits_iff (fun _ => true) .utf8 (tokenDeployment "second-token ") "second-token " rfl (by decide)).mp admitted
  exact (portable.ending ' ' (by decide +kernel)).1 rfl

end Tempmail.Config
