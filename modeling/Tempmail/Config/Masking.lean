import Mathlib.Data.List.Forall2
import Mathlib.Logic.Relation
import Tempmail.Config.Commit
import Tempmail.Config.Dsn
import Tempmail.Config.Patched

set_option autoImplicit false

namespace Tempmail.Config

def secretWords : List String :=
  ["password", "passwd", "secret", "token", "apikey", "api_key", "privatekey", "private_key"]

-- re.I on a letter of the words above; four letters outside ASCII match too.
def foldCase (c : Char) : Char :=
  if c = '\u017f' then 's' else if c = '\u212a' then 'k' else if c = '\u0130' ∨ c = '\u0131' then 'i' else c.toLower

-- _SECRET_KEY_RE.search
def secretMatch (text : String) : Bool :=
  secretWords.any (fun word => (text.toList.map foldCase).tails.any (fun tail => word.toList.isPrefixOf tail))

def secretKey : Key → Bool
  | .str text => secretMatch text
  | .other _ => false

def Value.scalar : Value → Bool
  | .str _ => true
  | .int _ => true
  | .float _ => true
  | .bool _ => true
  | _ => false

def stars : Value := .str "***"

mutual

def maskSecrets : Value → Value
  | .list items => .list (maskItems items)
  | .map entries => .map (maskEntries entries)
  | value => value

def maskItems : List Value → List Value
  | [] => []
  | item :: rest => maskSecrets item :: maskItems rest

def maskEntries : List (Key × Value) → List (Key × Value)
  | [] => []
  | (key, value) :: rest => (key, if secretKey key && value.scalar then stars else maskSecrets value) :: maskEntries rest

end

def maskConfig (config : Value) : Except Raised Value := do
  let database ← config.get "database" (.map [])
  let url ← database.get "url" .null
  match url with
  | .str text => do
      let masked ← config.setNested "database" "url" (.str (hidePassword text))
      .ok (maskSecrets masked)
  | _ => .ok (maskSecrets config)

-- Trees that part only where an entry is free to.
abbrev Free := Key → Value → Value → Prop

mutual

def Alike (free : Free) : Value → Value → Prop
  | .list left, .list right => AlikeItems free left right
  | .map left, .map right => AlikeEntries free left right
  | left, right => left = right

def AlikeItems (free : Free) : List Value → List Value → Prop
  | [], [] => True
  | left :: lefts, right :: rights => Alike free left right ∧ AlikeItems free lefts rights
  | _, _ => False

def AlikeEntries (free : Free) : List (Key × Value) → List (Key × Value) → Prop
  | [], [] => True
  | (key, left) :: lefts, (other, right) :: rights =>
      key = other ∧ (free key left right ∨ Alike free left right) ∧ AlikeEntries free lefts rights
  | _, _ => False

end

def starred : Free := fun key left right => secretKey key = true ∧ left.scalar = true ∧ right.scalar = true

def secret : Free := fun key _ _ => secretKey key = true

theorem mask_scalar (value : Value) : (maskSecrets value).scalar = value.scalar := by
  cases value <;> rfl

theorem mask_entry_iff (key : Key) (left right : Value)
    (below : maskSecrets left = maskSecrets right ↔ Alike starred left right) :
    (if secretKey key && left.scalar then stars else maskSecrets left) =
      (if secretKey key && right.scalar then stars else maskSecrets right) ↔
      starred key left right ∨ Alike starred left right := by
  have scalars : maskSecrets left = maskSecrets right → left.scalar = right.scalar := by
    intro same
    rw [← mask_scalar left, same, mask_scalar]
  have unmasked : ∀ value : Value, ¬ value.scalar = true → maskSecrets value ≠ stars := by
    intro value compound same
    rw [← mask_scalar value, same] at compound
    exact compound rfl
  rw [starred, ← below]
  by_cases hidden : secretKey key = true
  · by_cases leftScalar : left.scalar = true
    · by_cases rightScalar : right.scalar = true
      · simp [hidden, leftScalar, rightScalar]
      · have apart : maskSecrets left ≠ maskSecrets right := fun same => rightScalar (scalars same ▸ leftScalar)
        simp [hidden, leftScalar, rightScalar, apart, (unmasked right rightScalar).symm]
    · by_cases rightScalar : right.scalar = true
      · have apart : maskSecrets left ≠ maskSecrets right := fun same => leftScalar ((scalars same).symm ▸ rightScalar)
        simp [hidden, leftScalar, rightScalar, apart, unmasked left leftScalar]
      · simp [hidden, leftScalar, rightScalar]
  · simp [hidden]

mutual

theorem mask_secrets_iff (left right : Value) : maskSecrets left = maskSecrets right ↔ Alike starred left right := by
  cases left with
  | list items =>
      cases right with
      | list others => simp [maskSecrets, Alike, mask_items_iff items others]
      | _ => simp [maskSecrets, Alike]
  | map entries =>
      cases right with
      | map others => simp [maskSecrets, Alike, mask_entries_iff entries others]
      | _ => simp [maskSecrets, Alike]
  | _ => cases right <;> simp [maskSecrets, Alike]

theorem mask_items_iff (left right : List Value) : maskItems left = maskItems right ↔ AlikeItems starred left right := by
  cases left with
  | nil => cases right <;> simp [maskItems, AlikeItems]
  | cons item rest =>
      cases right with
      | nil => simp [maskItems, AlikeItems]
      | cons other others => simp [maskItems, AlikeItems, mask_secrets_iff item other, mask_items_iff rest others]

theorem mask_entries_iff (left right : List (Key × Value)) :
    maskEntries left = maskEntries right ↔ AlikeEntries starred left right := by
  match left, right with
  | [], [] => simp [maskEntries, AlikeEntries]
  | [], entry :: others => simp [maskEntries, AlikeEntries]
  | (key, value) :: rest, [] => simp [maskEntries, AlikeEntries]
  | (key, value) :: rest, (name, other) :: others =>
      have below := mask_entry_iff key value other (mask_secrets_iff value other)
      have later := mask_entries_iff rest others
      rw [maskEntries, maskEntries, AlikeEntries, List.cons.injEq, Prod.mk.injEq, later, and_assoc]
      refine and_congr_right fun same => ?_
      rw [← same, below]

end

section Urls

variable (free : Free) (key : String) (rel : Value → Value → Prop)

def OnText (urls : String → String → Prop) (left right : Value) : Prop :=
  ∃ one two, left = .str one ∧ right = .str two ∧ urls one two

def Widened : Value → Value → Prop
  | .map left, .map right => List.Forall₂ (fun one two => one.1 = two.1 ∧
      (free one.1 one.2 two.2 ∨ Alike free one.2 two.2 ∨ one.1 = .str key ∧ rel one.2 two.2)) left right
  | _, _ => False

def ConfigAlike (urls : String → String → Prop) : Value → Value → Prop :=
  Widened free "database" (Widened free "url" (OnText urls))

def editEntry (edit : Value → Value) (entry : Key × Value) : Key × Value :=
  if entry.1 == .str key then (entry.1, edit entry.2) else entry

def edited (edit : Value → Value) (entries : List (Key × Value)) : List (Key × Value) := entries.map (editEntry key edit)

def Value.keyed : Value → Prop
  | .map entries => (entries.map Prod.fst).Nodup
  | _ => True

theorem lookup_member (name : Key) (value : Value) (entries : List (Key × Value)) (unique : (entries.map Prod.fst).Nodup)
    (member : (name, value) ∈ entries) : entries.lookup name = some value := by
  induction entries with
  | nil => cases member
  | cons entry rest ih =>
      obtain ⟨other, held⟩ := entry
      rw [List.map_cons, List.nodup_cons] at unique
      rcases List.mem_cons.mp member with here | later
      · cases here
        simp
      · have apart : (name == other) = false := by
          rw [beq_eq_false_iff_ne]
          intro same
          exact unique.1 (List.mem_map.mpr ⟨(name, value), later, same⟩)
        rw [List.lookup_cons, apart]
        exact ih unique.2 later

theorem edited_put (edit : Value → Value) (entries : List (Key × Value)) (value : Value) (unique : (entries.map Prod.fst).Nodup)
    (present : entries.lookup (.str key) = some value) : edited key edit entries = Value.put key (edit value) entries := by
  have held : entries.any (fun entry => entry.1 == .str key) = true := by
    by_contra absent
    have missing : entries.lookup (.str key) = none := by
      rw [List.lookup_eq_none_iff]
      intro entry member
      exact bne_iff_ne.mpr fun same => absent (List.any_eq_true.mpr ⟨entry, member, beq_iff_eq.mpr same.symm⟩)
    rw [missing] at present
    cases present
  rw [edited, Value.put, if_pos held]
  refine List.map_congr_left fun entry member => ?_
  by_cases here : (entry.1 == Key.str key) = true
  · have same : entry.2 = value := by
      have found := lookup_member entry.1 entry.2 entries unique member
      rw [eq_of_beq here, present] at found
      exact (Option.some.inj found).symm
    rw [editEntry, if_pos here, if_pos here, same]
  · rw [editEntry, if_neg here, if_neg here]

theorem edited_same (edit : Value → Value) (entries : List (Key × Value))
    (fixed : ∀ entry ∈ entries, entry.1 = .str key → edit entry.2 = entry.2) : edited key edit entries = entries := by
  rw [edited]
  refine (List.map_congr_left fun entry member => ?_).trans (List.map_id entries)
  rw [editEntry]
  by_cases here : (entry.1 == Key.str key) = true
  · rw [if_pos here, fixed entry member (eq_of_beq here)]
    rfl
  · rw [if_neg here]
    rfl

theorem entry_settles (edit : Value → Value) (fits : Value → Prop) (readable : secretKey (.str key) = false)
    (settles : ∀ left right, fits left → (Alike starred (edit left) (edit right) ↔ Alike starred left right ∨ rel left right))
    (name : Key) (left right : Value) (fit : name = .str key → fits left) :
    (starred name (editEntry key edit (name, left)).2 (editEntry key edit (name, right)).2 ∨
        Alike starred (editEntry key edit (name, left)).2 (editEntry key edit (name, right)).2) ↔
      (starred name left right ∨ Alike starred left right ∨ name = .str key ∧ rel left right) := by
  by_cases here : name = .str key
  · have settled := settles left right (fit here)
    simp [editEntry, here, starred, readable, settled]
  · simp [editEntry, here]

theorem edited_alike (edit : Value → Value) (fits : Value → Prop) (readable : secretKey (.str key) = false)
    (settles : ∀ left right, fits left → (Alike starred (edit left) (edit right) ↔ Alike starred left right ∨ rel left right))
    (left right : List (Key × Value)) (fit : ∀ entry ∈ left, entry.1 = .str key → fits entry.2) :
    Alike starred (.map (edited key edit left)) (.map (edited key edit right)) ↔
      Widened starred key rel (.map left) (.map right) := by
  rw [Alike, Widened]
  induction left generalizing right with
  | nil => cases right <;> simp [edited, AlikeEntries]
  | cons entry rest ih =>
      cases right with
      | nil => simp [edited, AlikeEntries]
      | cons other others =>
          obtain ⟨name, value⟩ := entry
          obtain ⟨otherName, otherValue⟩ := other
          have later := ih others fun found member => fit found (List.mem_cons_of_mem _ member)
          have names : ∀ entry : Key × Value, (editEntry key edit entry).1 = entry.1 := by
            intro entry
            rw [editEntry]
            split <;> rfl
          rw [List.forall₂_cons, ← later]
          change AlikeEntries starred (editEntry key edit (name, value) :: edited key edit rest)
            (editEntry key edit (otherName, otherValue) :: edited key edit others) ↔ _
          rw [AlikeEntries, names, names, and_assoc]
          refine and_congr_right fun same => and_congr_left fun _ => ?_
          dsimp only at same ⊢
          rw [← same]
          exact entry_settles key rel edit fits readable settles name value otherValue fun here => fit
            (name, value) List.mem_cons_self here

end Urls

section Config

def SameText (left right : String) : Prop := SameShown left.toList right.toList

def maskUrl : Value → Value
  | .str text => .str (hidePassword text)
  | value => value

def maskDatabase : Value → Value
  | .map entries => .map (edited "url" maskUrl entries)
  | value => value

theorem hide_password_iff (left right : String) : hidePassword left = hidePassword right ↔ SameText left right := by
  rw [SameText, ← hide_same_iff, hidePassword, hidePassword]
  constructor
  · intro same
    have lists := congrArg String.toList same
    simpa using lists
  · intro same
    rw [same]

theorem url_settles (left right : Value) :
    Alike starred (maskUrl left) (maskUrl right) ↔ Alike starred left right ∨ OnText SameText left right := by
  cases left with
  | str one =>
      cases right with
      | str two =>
          have same : one = two → SameText one two := fun equal => (hide_password_iff one two).mp (by rw [equal])
          simpa [maskUrl, Alike, OnText, hide_password_iff] using same
      | _ => simp [maskUrl, Alike, OnText]
  | _ => cases right <;> simp [maskUrl, Alike, OnText]

theorem alike_widened (free : Free) (key : String) (rel : Value → Value → Prop) (left right : List (Key × Value))
    (alike : Alike free (.map left) (.map right)) : Widened free key rel (.map left) (.map right) := by
  rw [Alike] at alike
  rw [Widened]
  induction left generalizing right with
  | nil =>
      cases right with
      | nil => exact .nil
      | cons other others => simp [AlikeEntries] at alike
  | cons entry rest ih =>
      cases right with
      | nil => simp [AlikeEntries] at alike
      | cons other others =>
          rw [AlikeEntries] at alike
          exact .cons ⟨alike.1, alike.2.1.elim Or.inl fun below => Or.inr (Or.inl below)⟩ (ih others alike.2.2)

def isMapping (value : Value) : Prop := ∃ entries, value = .map entries

theorem database_settles (left right : Value) (mapping : isMapping left) :
    Alike starred (maskDatabase left) (maskDatabase right) ↔
      Alike starred left right ∨ Widened starred "url" (OnText SameText) left right := by
  obtain ⟨entries, rfl⟩ := mapping
  cases right with
  | map others =>
      have urls := edited_alike "url" (OnText SameText) maskUrl (fun _ => True) (by decide +kernel)
        (fun one two _ => url_settles one two) entries others fun _ _ _ => trivial
      rw [maskDatabase, maskDatabase, urls]
      exact ⟨Or.inr, fun either => either.elim (alike_widened starred "url" _ entries others) id⟩
  | _ => simp [maskDatabase, Alike, Widened]

def databaseMapping (config : Value) : Prop := ∀ database, config.top "database" = some database → isMapping database

def urlMasked : Value → Value
  | .map entries => .map (edited "database" maskDatabase entries)
  | value => value

structure Keyed (config : Value) : Prop where
  top : config.keyed
  database : ∀ database, config.top "database" = some database → database.keyed

theorem edited_absent (key : String) (edit : Value → Value) (entries : List (Key × Value)) (unique : (entries.map Prod.fst).Nodup)
    (fixed : ∀ value, entries.lookup (.str key) = some value → edit value = value) : edited key edit entries = entries := by
  refine edited_same key edit entries fun entry member here => ?_
  have found := lookup_member entry.1 entry.2 entries unique member
  rw [here] at found
  exact fixed entry.2 found

theorem mask_config_ok (entries : List (Key × Value)) (keyed : Keyed (.map entries)) (mapping : databaseMapping (.map entries)) :
    maskConfig (.map entries) = .ok (maskSecrets (urlMasked (.map entries))) := by
  have unmasked : (∀ database, entries.lookup (.str "database") = some database → maskDatabase database = database) →
      urlMasked (.map entries) = .map entries := by
    intro fixed
    rw [urlMasked, edited_absent "database" maskDatabase entries keyed.top fixed]
  cases present : entries.lookup (.str "database") with
  | none =>
      rw [unmasked fun database found => by rw [present] at found; cases found]
      simp only [maskConfig, Value.get, present, bind, Except.bind, Option.getD_none, List.lookup_nil]
  | some database =>
      obtain ⟨inner, rfl⟩ := mapping database present
      have unique : (inner.map Prod.fst).Nodup := keyed.database _ present
      have kept : (∀ value, inner.lookup (.str "url") = some value → maskUrl value = value) →
        urlMasked (.map entries) = .map entries := by
        intro fixed
        refine unmasked fun database found => ?_
        rw [present] at found
        rw [← Option.some.inj found, maskDatabase, edited_absent "url" maskUrl inner unique fixed]
      cases url : inner.lookup (.str "url") with
      | none =>
          rw [kept fun value found => by rw [url] at found; cases found]
          simp only [maskConfig, Value.get, present, url, bind, Except.bind, Option.getD_some, Option.getD_none]
      | some value =>
          cases value with
          | str text =>
              have inside := edited_put "url" maskUrl inner (.str text) unique url
              have outside := edited_put "database" maskDatabase entries (.map inner) keyed.top present
              rw [maskDatabase, inside, maskUrl] at outside
              rw [urlMasked, outside]
              simp only [maskConfig, Value.get, present, url, bind, Except.bind, Option.getD_some, Value.setNested, Value.setItem]
          | _ =>
              rw [kept fun value found => by rw [url] at found; cases found; rfl]
              simp only [maskConfig, Value.get, present, url, bind, Except.bind, Option.getD_some]

theorem mask_config_mapping (config tree : Value) (done : maskConfig config = .ok tree) :
    databaseMapping config ∧ isMapping config := by
  obtain ⟨database, present, rest⟩ := bind_ok _ _ _ done
  obtain ⟨url, held, -⟩ := bind_ok _ _ _ rest
  have database_eq := get_top config "database" (.map []) database present
  constructor
  · intro found top
    rw [top, Option.getD_some] at database_eq
    rw [← database_eq]
    cases database with
    | map entries => exact ⟨entries, rfl⟩
    | _ => cases held
  · cases config with
    | map entries => exact ⟨entries, rfl⟩
    | _ => cases present

theorem masked_alike (left right : List (Key × Value)) (keyed : Keyed (.map left)) (mapping : databaseMapping (.map left)) :
    maskSecrets (urlMasked (.map left)) = maskSecrets (urlMasked (.map right)) ↔ ConfigAlike starred SameText
      (.map left) (.map right) := by
  rw [mask_secrets_iff]
  refine edited_alike "database" _ maskDatabase isMapping (by decide +kernel) database_settles left right ?_
  intro entry member here
  have found := lookup_member entry.1 entry.2 left keyed.top member
  rw [here] at found
  exact mapping entry.2 found

end Config

section Secrets

-- SQLAlchemy ends a password at its first @, net/url the authority at / ? or #.
def passwordText (text : String) : Prop := '@' ∉ text.toList ∨ ('/' ∉ text.toList ∧ '?' ∉ text.toList ∧ '#' ∉ text.toList)

-- Two urls that part in one password: after a username, which may be empty, or
-- as the password parameter of the query.
inductive PasswordApart : String → String → Prop where
  | userinfo (scheme user one two host : String) (schemePlain : ':' ∉ scheme.toList)
      (userPlain : ':' ∉ user.toList ∧ '/' ∉ user.toList)
      (parsed : passwordText one ∧ passwordText two) :
      PasswordApart (scheme ++ "://" ++ user ++ ":" ++ one ++ "@" ++ host) (scheme ++ "://" ++ user ++ ":" ++ two ++ "@" ++ host)
  | query (front one two back : String) (asked : '?' ∈ front.toList ∧ front.toList.getLast? ∈ [some '?', some '&'])
      (parsed : ('&' ∉ one.toList ∧ '#' ∉ one.toList) ∧ '&' ∉ two.toList ∧ '#' ∉ two.toList)
      (ended : back.toList.head? ∈ [none, some '&', some '#']) :
      PasswordApart (front ++ "password=" ++ one ++ back) (front ++ "password=" ++ two ++ back)

structure DifferInSecrets (left right : Value) : Prop where
  leftKeyed : Keyed left
  rightKeyed : Keyed right
  alike : ConfigAlike secret (Relation.ReflTransGen PasswordApart) left right

def HidesSecrets (left right : Value) : Prop :=
  DifferInSecrets left right → ∃ tree, maskConfig left = .ok tree ∧ maskConfig right = .ok tree

-- Nothing apart but scalars under secret keys and the passwords that the
-- pattern of mask_config matches in both urls.
structure Covered (left right : Value) : Prop where
  alike : ConfigAlike starred SameText left right
  leftMapping : databaseMapping left
  rightMapping : databaseMapping right

theorem hides_secrets_iff (left right : Value) : HidesSecrets left right ↔ (DifferInSecrets left right → Covered left right) := by
  refine forall_congr' fun differ => ?_
  constructor
  · intro ⟨tree, leftDone, rightDone⟩
    obtain ⟨leftMapping, entries, rfl⟩ := mask_config_mapping left tree leftDone
    obtain ⟨rightMapping, others, rfl⟩ := mask_config_mapping right tree rightDone
    rw [mask_config_ok entries differ.leftKeyed leftMapping] at leftDone
    rw [mask_config_ok others differ.rightKeyed rightMapping] at rightDone
    have same := Except.ok.inj (leftDone.trans rightDone.symm)
    exact ⟨(masked_alike entries others differ.leftKeyed leftMapping).mp same, leftMapping, rightMapping⟩
  · intro covered
    have alike := covered.alike
    cases left with
    | map entries =>
        cases right with
        | map others =>
            have same := (masked_alike entries others differ.leftKeyed covered.leftMapping).mpr alike
            have rightDone := mask_config_ok others differ.rightKeyed covered.rightMapping
            rw [← same] at rightDone
            exact ⟨_, mask_config_ok entries differ.leftKeyed covered.leftMapping, rightDone⟩
        | _ => exact alike.elim
    | _ => exact alike.elim

def withUrl (url : String) (tokens : List String) : Value :=
  .map [(.str "database", .map [(.str "url", .str url)]), (.str "tokens", words tokens)]

theorem with_url_keyed (url : String) (tokens : List String) : Keyed (withUrl url tokens) := by
  refine ⟨by simp [withUrl, Value.keyed], ?_⟩
  intro database top
  have database_eq : database = .map [(.str "url", .str url)] := (Option.some.inj top).symm
  rw [database_eq]
  simp [Value.keyed]

theorem with_url_mapping (url : String) (tokens : List String) : databaseMapping (withUrl url tokens) := by
  intro database top
  exact ⟨_, (Option.some.inj top).symm⟩

theorem words_masked (texts : List String) : maskSecrets (words texts) = words texts := by
  have items : maskItems (texts.map Value.str) = texts.map Value.str := by
    induction texts with
    | nil => rfl
    | cons text rest ih =>
        have same : maskSecrets (.str text) = .str text := rfl
        rw [List.map_cons, maskItems, ih, same]
  rw [words, maskSecrets, items]

theorem with_url_masked (url : String) (tokens : List String) :
    maskConfig (withUrl url tokens) = .ok (withUrl (hidePassword url) tokens) := by
  have database : secretKey (.str "database") = false := by decide +kernel
  have inner : secretKey (.str "url") = false := by decide +kernel
  rw [withUrl, mask_config_ok _ (with_url_keyed url tokens) (with_url_mapping url tokens)]
  have tokensKey : (Key.str "tokens" == Key.str "database") = false := by decide
  simp only [urlMasked, edited, editEntry, List.map_cons, List.map_nil, beq_self_eq_true, if_true, tokensKey,
    Bool.false_eq_true, if_false,
    maskDatabase, maskUrl, maskSecrets, maskEntries, database, inner, Bool.false_and, words_masked, withUrl]
  simp [words, Value.scalar]

theorem with_url_differ (left right : String) (one two : List String)
    (urls : left = right ∨ PasswordApart left right) : DifferInSecrets (withUrl left one) (withUrl right two) := by
  have tokens : secretKey (.str "tokens") = true := by decide +kernel
  refine ⟨with_url_keyed left one, with_url_keyed right two, ?_⟩
  refine .cons ⟨rfl, Or.inr (Or.inr ⟨rfl, ?_⟩)⟩ (.cons ⟨rfl, Or.inl tokens⟩ .nil)
  refine .cons ⟨rfl, Or.inr (Or.inr ⟨rfl, left, right, rfl, rfl, ?_⟩)⟩ .nil
  rcases urls with same | apart
  · rw [same]
  · exact .single apart

theorem with_url_shown (left right : String) (one two : List String) (urls : left = right ∨ PasswordApart left right)
    (shown : withUrl (hidePassword left) one ≠ withUrl (hidePassword right) two) :
    ¬ HidesSecrets (withUrl left one) (withUrl right two) := by
  intro hides
  obtain ⟨tree, leftDone, rightDone⟩ := hides (with_url_differ left right one two urls)
  rw [with_url_masked] at leftDone rightDone
  exact shown (Except.ok.inj (leftDone.trans rightDone.symm))

-- A list of tokens is no scalar, and a url may have a password and no username.
theorem secrets_shown :
    ¬ HidesSecrets (withUrl "db" ["a"]) (withUrl "db" ["b"]) ∧
      ¬ HidesSecrets (withUrl "postgresql://:a@db" []) (withUrl "postgresql://:b@db" []) := by
  have plain : hidePassword "postgresql://:a@db" ≠ hidePassword "postgresql://:b@db" := by decide +kernel
  constructor
  · exact with_url_shown "db" "db" ["a"] ["b"] (Or.inl rfl) (by simp [withUrl, words])
  · refine with_url_shown _ _ [] [] (Or.inr ?_) (by simp [withUrl, plain])
    exact .userinfo "postgresql" "" "a" "b" "db" (by decide +kernel) (by decide +kernel)
      ⟨Or.inl (by decide +kernel), Or.inl (by decide +kernel)⟩

end Secrets

end Tempmail.Config
