import HireSettle.Common.SystemConfig
import HireSettle.Workflow.JsonTexts

/-! The keys that sign tokens and the keys that verify them, both read from the
configuration. A token is verified under the key that its header names. -/
namespace HireSettle.JwtKeyStore
open Workflow
open JsonTexts (Units Value)

inductive Key (α : Type) where
  | keyObject (key : α)
  | secret (text : String)
  deriving DecidableEq, Repr

/-- What Node and the token library do with keys, and how the text of a header becomes bytes. -/
structure Library (Private Public : Type) where
  createPrivateKey : Units → Option Private
  createPublicKey : Units → Option Public
  publicOf : Private → Public
  asymmetricKeyType : Public → String
  modulusLength : Public → Option Nat
  headerBytes : List Char → List Nat
  sign (algorithm : String) (key : Key Private) (input : String) : Option String
  verify (algorithm : String) (key : Key Public) (input signature : String) : Bool

structure ConfigService where
  get : String → Option String
  readFile : String → Option String := fun _ => none

inductive KeyError where
  | error (message : Units)
  | about (before : String) (value : Option Value) (behind : String)
  | typeError
  | crypto
  | unreadable (file : String)

structure LoadedKey (Private Public : Type) where
  kid : Units
  privateKey : Option Private
  publicKey : Public
  deriving Repr

structure ActiveKey (Private Public : Type) where
  kid : Units
  privateKey : Private
  publicKey : Public
  deriving Repr

structure Store (Private Public : Type) where
  keys : List (LoadedKey Private Public)
  activeKey : Option (ActiveKey Private Public)
  legacySecret : Option String
  acceptLegacy : Bool

def JWT_ASYMMETRIC_ALGORITHM : String := "RS256"
def LEGACY_ALGORITHM : String := "HS256"
def MIN_RSA_MODULUS_BITS : Nat := 2048

section Configuration

variable {Private Public : Type} (lib : Library Private Public) (config : ConfigService)

def about (before : String) (kid : Units) (behind : String) : KeyError := .error (utf16 before ++ kid ++ utf16 behind)

def signingKeys : Except KeyError (Option String) :=
  match present (config.get "JWT_SIGNING_KEYS_FILE") with
  | none => .ok (config.get "JWT_SIGNING_KEYS")
  | some file =>
      match config.readFile file with
      | some text => .ok (some text)
      | none => .error (.unreadable file)

def parseKeys (raw : String) : Except KeyError (List Value) :=
  if trim raw = "" then .ok []
  else match JsonTexts.read raw.toList with
    | none => .error (.error (utf16 "JWT_SIGNING_KEYS must be a JSON array of \x7b kid, privateKey?, publicKey? \x7d"))
    | some (.array entries) => .ok entries
    | some _ => .error (.error (utf16 "JWT_SIGNING_KEYS must be a JSON array"))

def readKeyConfig : Except KeyError (List Value) := do
  let raw ← signingKeys config
  match raw with
  | none => .ok []
  | some raw => parseKeys raw

-- a value that is there and not falsy
def supplied (entry : Value) (name : String) : Option Value := (entry.field name).filter Value.truthy

def normalizePem : Units → Units
  | 92 :: 110 :: rest => 10 :: normalizePem rest
  | u :: rest => u :: normalizePem rest
  | [] => []

def create {α : Type} (createKey : Units → Option α) : Value → Except KeyError α
  | .text pem =>
      match createKey (normalizePem pem) with
      | some key => .ok key
      | none => .error .crypto
  | _ => .error .typeError

/-- An RSA key that is long enough. -/
def usable (key : Public) : Bool :=
  lib.asymmetricKeyType key = "rsa" && MIN_RSA_MODULUS_BITS ≤ (lib.modulusLength key).getD 0

def checkedKey (kid : Units) (privateKey : Option Private) (publicKey : Public) : Except KeyError (LoadedKey Private Public) :=
  if usable lib publicKey then .ok ⟨kid,privateKey,publicKey⟩
  else .error (about "JWT key \"" kid "\" must be an RSA key of at least 2048 bits")

def isBlank (units : Units) : Bool := units.all fun u => isSpace (Char.ofNat u)

def kidOf (entry : Value) : Option Units :=
  match entry.field "kid" with
  | some (.text kid) => if isBlank kid then none else some kid
  | _ => none

def loadKey (entry : Value) : Except KeyError (LoadedKey Private Public) :=
  match kidOf entry with
  | none => .error (.error (utf16 "Every JWT_SIGNING_KEYS entry needs a non-empty \"kid\""))
  | some kid =>
      match supplied entry "privateKey", supplied entry "publicKey" with
      | none, none => .error (about "JWT key \"" kid "\" needs a privateKey or publicKey")
      | some pem, none => do
          let privateKey ← create lib.createPrivateKey pem
          checkedKey lib kid (some privateKey) (lib.publicOf privateKey)
      | none, some pem => do
          let publicKey ← create lib.createPublicKey pem
          checkedKey lib kid none publicKey
      | some pem, some own => do
          let privateKey ← create lib.createPrivateKey pem
          let publicKey ← create lib.createPublicKey own
          checkedKey lib kid (some privateKey) publicKey

def get? (keys : List (LoadedKey Private Public)) (kid : Units) : Option (LoadedKey Private Public) :=
  keys.find? fun key => key.kid = kid

def loadKeys : List Value → List (LoadedKey Private Public) → Except KeyError (List (LoadedKey Private Public))
  | [], keys => .ok keys
  | entry :: rest, keys => do
      let loaded ← loadKey lib entry
      if (get? keys loaded.kid).isSome then .error (about "Duplicate JWT signing key id \"" loaded.kid "\"")
      else loadKeys rest (keys ++ [loaded])

def requested : Option Units := (present (config.get "JWT_ACTIVE_KID")).map utf16

def resolveActiveKey (keys : List (LoadedKey Private Public)) : Except KeyError (Option (ActiveKey Private Public)) :=
  if keys.isEmpty then .ok none
  else
    let active := match requested config with
      | some kid => get? keys kid
      | none => keys.find? fun key => key.privateKey.isSome
    match active with
    | none => match requested config with
        | some kid => .error (about "JWT_ACTIVE_KID \"" kid "\" does not match any JWT_SIGNING_KEYS entry")
        | none => .error (.error (utf16 "At least one JWT_SIGNING_KEYS entry must include a privateKey"))
    | some active => match active.privateKey with
        | none => .error (about "Active JWT key \"" active.kid "\" has no privateKey")
        | some privateKey => .ok (some ⟨active.kid,privateKey,active.publicKey⟩)

def isTruthy (value : Option String) : Bool := (trim (value.getD "")).toLower ∈ ["true","1","yes"]

def construct : Except KeyError (Store Private Public) := do
  let entries ← readKeyConfig config
  let keys ← loadKeys lib entries []
  let activeKey ← resolveActiveKey config keys
  return { keys := keys
           activeKey := activeKey
           legacySecret := present (config.get "JWT_SECRET")
           acceptLegacy := activeKey.isNone || isTruthy (config.get "JWT_ACCEPT_LEGACY_HS256") }

end Configuration

section Tokens

variable {Private Public : Type} (lib : Library Private Public) (store : Store Private Public)

def verifyAlgorithms : List String :=
  (if store.keys.isEmpty then [] else [JWT_ASYMMETRIC_ALGORITHM]) ++
    if store.acceptLegacy && store.legacySecret.isSome then [LEGACY_ALGORITHM] else []

def signingKey : Except KeyError (Key Private) :=
  match store.activeKey, store.legacySecret with
  | some active, _ => .ok (.keyObject active.privateKey)
  | none, some secret => .ok (.secret secret)
  | none, none => .error (.error (utf16 "JWT_SECRET is not configured"))

/-- The header in front of the first point, unverified. -/
def decodeHeader (rawToken : List Char) : Option Value :=
  let encoded := rawToken.takeWhile (· ≠ '.')
  if encoded = [] then none
  else match JsonTexts.read (Utf8.decode (Base64Url.bytes (String.ofList encoded))) with
    | some (.object fields) => some (.object fields)
    | some (.array items) => some (.array items)
    | _ => none

def isText (text : String) : Option Value → Bool
  | some (.text units) => units = utf16 text
  | _ => false

def verificationKeyFor (rawToken : List Char) : Except KeyError (Key Public) :=
  match decodeHeader rawToken with
  | none => .error (.error (utf16 "Malformed JWT"))
  | some header =>
      if isText JWT_ASYMMETRIC_ALGORITHM (header.field "alg") then
        match supplied header "kid" with
        | some (.text kid) => match get? store.keys kid with
            | some key => .ok (.keyObject key.publicKey)
            | none => .error (about "Unknown JWT key id \"" kid "\"")
        | _ => .error (.about "Unknown JWT key id \"" (header.field "kid") "\"")
      else if isText LEGACY_ALGORITHM (header.field "alg") && store.acceptLegacy then
        match store.legacySecret with
        | some secret => .ok (.secret secret)
        | none => .error (.about "Unsupported JWT algorithm \"" (header.field "alg") "\"")
      else .error (.about "Unsupported JWT algorithm \"" (header.field "alg") "\"")

structure SignOptions where
  expiresIn : Value
  algorithm : String
  keyid : Option Units

structure JwtModuleOptions (Private Public : Type) where
  signingKey : Except KeyError (Key Private)
  verificationKey : String → Except KeyError (Key Public)
  signOptions : SignOptions
  algorithms : List String

def jwtModuleOptions (expiresIn : Value := .text (utf16 "15m")) : JwtModuleOptions Private Public where
  signingKey := signingKey store
  verificationKey := fun token => verificationKeyFor store token.toList
  signOptions := { expiresIn := expiresIn
                   algorithm := if store.activeKey.isSome then JWT_ASYMMETRIC_ALGORITHM else LEGACY_ALGORITHM
                   keyid := store.activeKey.map ActiveKey.kid }
  algorithms := verifyAlgorithms store

end Tokens

section Signatures

variable {Private Public : Type} (lib : Library Private Public) (config : ConfigService) (store : Store Private Public)

structure Token where
  algorithm : String
  input : String
  signature : String
  deriving DecidableEq, Repr

def Token.raw (token : Token) : String := token.input ++ "." ++ token.signature

def header (options : SignOptions) : Value :=
  .object ([(utf16 "alg",.text (utf16 options.algorithm)),(utf16 "typ",.text (utf16 "JWT"))] ++
    options.keyid.toList.map fun kid => (utf16 "kid",.text kid))

def encodedHeader (options : SignOptions) : String := Base64Url.write (lib.headerBytes (JsonTexts.write (header options)))

/-- The token that is signed over a payload, none when the library refuses the key. -/
def sign (payload : String) : Option Token :=
  let options := jwtModuleOptions store
  match options.signingKey with
  | .error _ => none
  | .ok key =>
      let input := encodedHeader lib options.signOptions ++ "." ++ payload
      (lib.sign options.signOptions.algorithm key input).map fun signature => ⟨options.signOptions.algorithm,input,signature⟩

def Verifies (token : Token) : Prop :=
  token.algorithm ∈ (jwtModuleOptions store).algorithms ∧
    ∃ key, (jwtModuleOptions store).verificationKey token.raw = .ok key ∧
      lib.verify token.algorithm key token.input token.signature = true

def entriesOf : List Value := (readKeyConfig config).toOption.getD []

def SameEntry (entry entry' : Value) : Prop :=
  kidOf entry = kidOf entry' ∧ supplied entry "privateKey" = supplied entry' "privateKey" ∧
    supplied entry "publicKey" = supplied entry' "publicKey"

def ListsSame (config config' : ConfigService) (kid : Units) : Prop :=
  ∃ entry ∈ entriesOf config, ∃ entry' ∈ entriesOf config', kidOf entry = some kid ∧ SameEntry entry entry'

/-- A signed token verifies where it was signed, and wherever the entry of its key is listed. -/
structure Trusted : Prop where
  here : ∀ payload token, sign lib store payload = some token → Verifies lib store token
  elsewhere : ∀ payload token, sign lib store payload = some token → ∀ config' store', construct lib config' = .ok store' →
    ∀ kid, (jwtModuleOptions store).signOptions.keyid = some kid → ListsSame config config' kid → Verifies lib store' token

/-- The entry of the key that signs. -/
def activeEntry : Option Value :=
  match requested config with
  | some kid => (entriesOf config).find? fun entry => kidOf entry = some kid
  | none => (entriesOf config).find? fun entry => (supplied entry "privateKey").isSome

/-- A token with this key id names it to who reads its header. -/
def Carries (kid : Units) : Prop :=
  ∃ read, decodeHeader (encodedHeader lib ⟨.text (utf16 "15m"),JWT_ASYMMETRIC_ALGORITHM,some kid⟩).toList = some read ∧
    isText JWT_ASYMMETRIC_ALGORITHM (read.field "alg") = true ∧ supplied read "kid" = some (.text kid)

/-- The public key of an entry, where it has its own, is that of its private key. -/
def Paired (entry : Value) (privateKey : Private) : Prop :=
  ∀ pem publicKey, supplied entry "publicKey" = some pem → create lib.createPublicKey pem = .ok publicKey →
    publicKey = lib.publicOf privateKey

/-- What signing and verifying are relied on for. -/
structure Documented : Prop where
  bytes : ∀ text : List Char, (∀ c ∈ text, c.toNat < 0x80) → lib.headerBytes text = text.map Char.toNat
  signs : ∀ key input, (lib.sign JWT_ASYMMETRIC_ALGORITHM (.keyObject key) input).isSome = usable lib (lib.publicOf key)
  pair : ∀ key input signature, lib.sign JWT_ASYMMETRIC_ALGORITHM (.keyObject key) input = some signature →
    ∀ publicKey, lib.verify JWT_ASYMMETRIC_ALGORITHM (.keyObject publicKey) input signature = true ↔ publicKey = lib.publicOf key
  shared : ∀ secret input signature, lib.sign LEGACY_ALGORITHM (.secret secret) input = some signature →
    ∀ other, lib.verify LEGACY_ALGORITHM (.secret other) input signature = true ↔ other = secret

end Signatures

section Loading

variable {Private Public : Type} {lib : Library Private Public} {config : ConfigService} {entry entry' : Value}
  {keys : List (LoadedKey Private Public)} {key : LoadedKey Private Public}

theorem checkedSame {kid : Units} {privateKey : Option Private} {publicKey : Public}
    (checked : checkedKey lib kid privateKey publicKey = .ok key) : usable lib publicKey = true ∧ key = ⟨kid,privateKey,publicKey⟩ := by
  unfold checkedKey at checked
  split at checked
  · cases checked
    exact ⟨by assumption,rfl⟩
  · cases checked

/-- What an entry is loaded as. -/
structure Loads (lib : Library Private Public) (entry : Value) (key : LoadedKey Private Public) : Prop where
  kid : kidOf entry = some key.kid
  usable : usable lib key.publicKey = true
  secret : ∀ pem, supplied entry "privateKey" = some pem →
    ∃ privateKey, create lib.createPrivateKey pem = .ok privateKey ∧ key.privateKey = some privateKey
  without : supplied entry "privateKey" = none → key.privateKey = none
  own : ∀ pem, supplied entry "publicKey" = some pem → create lib.createPublicKey pem = .ok key.publicKey
  derived : supplied entry "publicKey" = none → ∀ privateKey, key.privateKey = some privateKey → key.publicKey = lib.publicOf privateKey

theorem loads (loaded : loadKey lib entry = .ok key) : Loads lib entry key := by
  unfold loadKey at loaded
  cases named : kidOf entry with
  | none => rw [named] at loaded; cases loaded
  | some kid =>
    rw [named] at loaded
    dsimp only at loaded
    cases inside : supplied entry "privateKey" with
    | none =>
      cases own : supplied entry "publicKey" with
      | none => rw [inside,own] at loaded; cases loaded
      | some pem =>
        rw [inside,own] at loaded
        obtain ⟨publicKey,created,checked⟩ := exceptBind.mp loaded
        obtain ⟨usable,rfl⟩ := checkedSame checked
        exact ⟨named,usable,fun _ there => (by cases inside.symm.trans there),fun _ => rfl,
          fun _ there => (by cases own.symm.trans there; exact created),fun gone => by cases own.symm.trans gone⟩
    | some secret =>
      cases own : supplied entry "publicKey" with
      | none =>
        rw [inside,own] at loaded
        obtain ⟨privateKey,created,checked⟩ := exceptBind.mp loaded
        obtain ⟨usable,rfl⟩ := checkedSame checked
        exact ⟨named,usable,fun _ there => (by cases inside.symm.trans there; exact ⟨privateKey,created,rfl⟩),
          fun gone => (by cases inside.symm.trans gone),fun _ there => (by cases own.symm.trans there),
          fun _ other there => by cases there; rfl⟩
      | some pem =>
        rw [inside,own] at loaded
        obtain ⟨privateKey,created,loaded⟩ := exceptBind.mp loaded
        obtain ⟨publicKey,made,checked⟩ := exceptBind.mp loaded
        obtain ⟨usable,rfl⟩ := checkedSame checked
        exact ⟨named,usable,fun _ there => (by cases inside.symm.trans there; exact ⟨privateKey,created,rfl⟩),
          fun gone => (by cases inside.symm.trans gone),fun _ there => (by cases own.symm.trans there; exact made),
          fun gone => by cases own.symm.trans gone⟩

theorem loadSame (same : SameEntry entry entry') : loadKey lib entry = loadKey lib entry' := by
  unfold loadKey
  rw [same.1,same.2.1,same.2.2]

theorem loadKeysListed {entries : List Value} {out : List (LoadedKey Private Public)} (loaded : loadKeys lib entries keys = .ok out)
    (unique : (keys.map LoadedKey.kid).Nodup) : (out.map LoadedKey.kid).Nodup ∧
      ∃ more, out = keys ++ more ∧ List.Forall₂ (fun entry key => loadKey lib entry = .ok key) entries more := by
  induction entries generalizing keys with
  | nil =>
    cases loaded
    exact ⟨unique,[],(List.append_nil _).symm,.nil⟩
  | cons entry rest ih =>
    obtain ⟨key,first,loaded⟩ := exceptBind.mp loaded
    split at loaded
    · cases loaded
    · rename_i fresh
      have new : key.kid ∉ keys.map LoadedKey.kid := fun inside => fresh (by
        obtain ⟨other,there,same⟩ := List.mem_map.mp inside
        exact List.find?_isSome.mpr ⟨other,there,decide_eq_true same⟩)
      have apart : ((keys ++ [key]).map LoadedKey.kid).Nodup := by
        rw [List.map_append]
        exact List.nodup_append.mpr ⟨unique,List.nodup_singleton _,fun kid inside other there same => by
          rw [List.mem_singleton.mp there] at same
          exact new (same ▸ inside)⟩
      obtain ⟨unique,more,rfl,each⟩ := ih loaded apart
      exact ⟨unique,key :: more,List.append_assoc _ _ _,.cons first each⟩

variable {store : Store Private Public}

/-- How a configuration became the store. -/
structure Constructs (lib : Library Private Public) (config : ConfigService) (store : Store Private Public) : Prop where
  read : readKeyConfig config = .ok (entriesOf config)
  each : List.Forall₂ (fun entry key => loadKey lib entry = .ok key) (entriesOf config) store.keys
  unique : (store.keys.map LoadedKey.kid).Nodup
  active : resolveActiveKey config store.keys = .ok store.activeKey
  legacySecret : store.legacySecret = present (config.get "JWT_SECRET")
  acceptLegacy : store.acceptLegacy = (store.activeKey.isNone || isTruthy (config.get "JWT_ACCEPT_LEGACY_HS256"))

theorem constructs (accepted : construct lib config = .ok store) : Constructs lib config store := by
  obtain ⟨entries,read,accepted⟩ := exceptBind.mp accepted
  obtain ⟨keys,loaded,accepted⟩ := exceptBind.mp accepted
  obtain ⟨active,resolved,accepted⟩ := exceptBind.mp accepted
  cases accepted
  obtain ⟨unique,more,same,each⟩ := loadKeysListed loaded List.nodup_nil
  have known : entriesOf config = entries := by rw [entriesOf,read]; rfl
  cases same
  exact ⟨by rw [known,read],by rw [known]; exact each,unique,resolved,rfl,rfl⟩

theorem constructed {entries : List Value} (read : readKeyConfig config = .ok entries) {keys : List (LoadedKey Private Public)}
    (loaded : loadKeys lib entries [] = .ok keys) {active : Option (ActiveKey Private Public)}
    (resolved : resolveActiveKey config keys = .ok active) :
    construct lib config = .ok ⟨keys,active,present (config.get "JWT_SECRET"),
      active.isNone || isTruthy (config.get "JWT_ACCEPT_LEGACY_HS256")⟩ :=
  exceptBind.mpr ⟨_,read,exceptBind.mpr ⟨_,loaded,exceptBind.mpr ⟨_,resolved,rfl⟩⟩⟩

theorem findAlong {α β : Type} {R : α → β → Prop} {p : α → Bool} {q : β → Bool} (same : ∀ x y, R x y → p x = q y) {xs : List α} {ys : List β}
    (along : List.Forall₂ R xs ys) {x : α} (found : xs.find? p = some x) : ∃ y, ys.find? q = some y ∧ R x y := by
  induction along with
  | nil => cases found
  | @cons x' y' xs ys related rest ih =>
    cases here : p x' with
    | true =>
      rw [List.find?_cons_of_pos here] at found
      cases found
      exact ⟨y',List.find?_cons_of_pos (by rw [← same _ _ related,here]),related⟩
    | false =>
      rw [List.find?_cons_of_neg (by rw [here]; exact Bool.false_ne_true)] at found
      obtain ⟨y,there,its⟩ := ih found
      exact ⟨y,by rw [List.find?_cons_of_neg (by rw [← same _ _ related,here]; exact Bool.false_ne_true)]; exact there,its⟩

theorem findBack {α β : Type} {R : α → β → Prop} {p : α → Bool} {q : β → Bool} (same : ∀ x y, R x y → p x = q y) {xs : List α} {ys : List β}
    (along : List.Forall₂ R xs ys) {y : β} (found : ys.find? q = some y) : ∃ x, xs.find? p = some x ∧ R x y :=
  findAlong (R := fun y x => R x y) (fun y x related => (same x y related).symm) along.flip found

theorem sameKid (kid : Units) : ∀ entry key, loadKey lib entry = .ok key →
    decide (kidOf entry = some kid) = decide (LoadedKey.kid key = kid) := by
  intro entry key loaded
  have named := (loads loaded).kid
  rw [named]
  simp

theorem sameSecret : ∀ entry key, loadKey lib entry = .ok key →
    (supplied entry "privateKey").isSome = (LoadedKey.privateKey key).isSome := by
  intro entry key loaded
  have its := loads loaded
  cases inside : supplied entry "privateKey" with
  | none =>
    rw [its.without inside]
    rfl
  | some pem =>
    obtain ⟨privateKey,_,same⟩ := its.secret pem inside
    rw [same]
    rfl

theorem getKid {kid : Units} (found : get? keys kid = some key) : key.kid = kid ∧ key ∈ keys := by
  have its : keys.find? (fun key => key.kid = kid) = some key := found
  exact ⟨by simpa using List.find?_some its,List.mem_of_find?_eq_some its⟩

theorem getListed (built : Constructs lib config store) {kid : Units} (inside : entry ∈ entriesOf config)
    (loaded : loadKey lib entry = .ok key) (named : kidOf entry = some kid) : get? store.keys kid = some key := by
  have listed : key ∈ store.keys := by
    obtain ⟨i,here,rfl⟩ := List.getElem_of_mem inside
    have same := built.each.get here (by rw [← built.each.length_eq]; exact here)
    have equal := Except.ok.inj (loaded.symm.trans same)
    rw [equal]
    exact List.get_mem _ _
  have its : key.kid = kid := Option.some.inj ((loads loaded).kid.symm.trans named)
  have found : (get? store.keys kid).isSome = true := List.find?_isSome.mpr ⟨key,listed,decide_eq_true its⟩
  obtain ⟨other,there⟩ := Option.isSome_iff_exists.mp found
  obtain ⟨same,there'⟩ := getKid there
  rw [there,List.inj_on_of_nodup_map built.unique there' listed (same.trans its.symm)]

/-- The key that signs is loaded from the active entry; without one there are no keys. -/
theorem activeLoaded (built : Constructs lib config store) :
    (store.activeKey = none → store.keys = []) ∧ ∀ active, store.activeKey = some active →
      ∃ entry ∈ entriesOf config, activeEntry config = some entry ∧
        loadKey lib entry = .ok ⟨active.kid,some active.privateKey,active.publicKey⟩ := by
  have resolved := built.active
  unfold resolveActiveKey at resolved
  split at resolved
  · rename_i empty
    have gone := Except.ok.inj resolved
    exact ⟨fun _ => List.isEmpty_iff.mp empty,fun active there => by cases gone.trans there⟩
  · dsimp only at resolved
    split at resolved
    · split at resolved <;> cases resolved
    · rename_i key found
      split at resolved
      · cases resolved
      · rename_i privateKey held
        have same := Except.ok.inj resolved
        refine ⟨fun none => (by cases same.trans none),fun active there => ?_⟩
        cases same.trans there
        have loaded : ∃ entry, activeEntry config = some entry ∧ loadKey lib entry = .ok key := by
          unfold activeEntry
          cases asked : requested config with
          | some kid =>
            rw [asked] at found
            exact findBack (sameKid kid) built.each found
          | none =>
            rw [asked] at found
            exact findBack sameSecret built.each found
        obtain ⟨entry,chosen,loaded⟩ := loaded
        have inside : entry ∈ entriesOf config := by
          unfold activeEntry at chosen
          split at chosen <;> exact List.mem_of_find?_eq_some chosen
        refine ⟨entry,inside,chosen,?_⟩
        rw [loaded,← held]

end Loading

section Headers

variable {Private Public : Type} {lib : Library Private Public} {store : Store Private Public} {options : SignOptions}

theorem pointFree (data : List Nat) : ∀ c ∈ (Base64Url.write data).toList, c ≠ '.' := by
  have letters : '.' ∉ 'A' :: Base64Url.alphabet := by decide +kernel
  intro c inside same
  rw [Base64Url.write,String.toList_ofList] at inside
  obtain ⟨n,_,rfl⟩ := List.mem_map.mp inside
  rw [← same,Base64Url.digit,List.getD_eq_getElem?_getD] at letters
  cases at' : Base64Url.alphabet[n]? with
  | none => exact letters (by rw [at']; exact List.mem_cons_self)
  | some letter => exact letters (by rw [at']; exact List.mem_cons_of_mem _ (List.mem_of_getElem? at'))

theorem decodeFirst {encoded : List Char} (plain : ∀ c ∈ encoded, c ≠ '.') (rest : List Char) :
    decodeHeader (encoded ++ '.' :: rest) = decodeHeader encoded := by
  have first : (encoded ++ '.' :: rest).takeWhile (fun c => decide (c ≠ '.')) = encoded := by
    rw [List.takeWhile_append_of_pos fun c inside => decide_eq_true (plain c inside),List.takeWhile_cons_of_neg (by decide),
      List.append_nil]
  have all : encoded.takeWhile (fun c => decide (c ≠ '.')) = encoded :=
    List.takeWhile_eq_self_iff.mpr fun c inside => decide_eq_true (plain c inside)
  unfold decodeHeader
  dsimp only
  rw [first,all]

theorem decodeSigned (payload signature : String) (data : List Nat) :
    decodeHeader ((Base64Url.write data ++ "." ++ payload) ++ "." ++ signature).toList = decodeHeader (Base64Url.write data).toList := by
  rw [String.toList_append,String.toList_append,String.toList_append,String.toList_append,List.append_assoc,List.append_assoc,
    List.append_assoc]
  exact decodeFirst (pointFree data) _

theorem headerProper (proper : ∀ kid ∈ options.keyid, ∀ u ∈ kid, u < 0x10000) : JsonTexts.Proper (header options) := by
  have units : ∀ s : String, ∀ u ∈ utf16 s, u < 0x10000 := by
    intro s u inside
    obtain ⟨c,_,inside⟩ := List.mem_flatMap.mp inside
    exact JsonTexts.codeSmall c u inside
  cases named : options.keyid with
  | none =>
    simp only [header,named]
    exact ⟨units _,units _,units _,units _,trivial⟩
  | some kid =>
    simp only [header,named]
    exact ⟨units _,units _,units _,units _,units _,proper kid named,trivial⟩

/-- The text of the header of an ASCII key id is ASCII. -/
theorem headerAscii (algorithm : ∀ u ∈ utf16 options.algorithm, u < 0x80) (ascii : ∀ kid ∈ options.keyid, ∀ u ∈ kid, u < 0x80) :
    ∀ c ∈ JsonTexts.write (header options), c.toNat < 0x80 := by
  have names : (∀ u ∈ utf16 "alg", u < 0x80) ∧ (∀ u ∈ utf16 "typ", u < 0x80) ∧ (∀ u ∈ utf16 "JWT", u < 0x80) ∧
      ∀ u ∈ utf16 "kid", u < 0x80 := by decide
  obtain ⟨alg,typ,jwt,name⟩ := names
  have texts : ∀ entry ∈ [(utf16 "alg",Value.text (utf16 options.algorithm)),(utf16 "typ",.text (utf16 "JWT"))] ++
      options.keyid.toList.map (fun kid => (utf16 "kid",Value.text kid)),
      (∀ u ∈ entry.1, u < 0x80) ∧ ∃ units, entry.2 = .text units ∧ ∀ u ∈ units, u < 0x80 := by
    intro entry inside
    obtain inside | inside := List.mem_append.mp inside
    · simp only [List.mem_cons,List.not_mem_nil,or_false] at inside
      obtain rfl | rfl := inside
      · exact ⟨alg,_,rfl,algorithm⟩
      · exact ⟨typ,_,rfl,jwt⟩
    · obtain ⟨kid,named,rfl⟩ := List.mem_map.mp inside
      exact ⟨name,_,rfl,ascii kid (Option.mem_toList.mp named)⟩
  intro c inside
  obtain rfl | inside := List.mem_cons.mp inside
  · decide
  · exact JsonTexts.fieldsAscii texts c inside

/-- A header of ASCII characters is decoded to what it is. -/
theorem headerDecoded (laws : Documented lib) (algorithm : ∀ u ∈ utf16 options.algorithm, u < 0x80)
    (ascii : ∀ kid ∈ options.keyid, ∀ u ∈ kid, u < 0x80) :
    decodeHeader (encodedHeader lib options).toList = some (header options) := by
  have plain := headerAscii algorithm ascii
  have bytes := laws.bytes _ plain
  have small : ∀ b ∈ (JsonTexts.write (header options)).map Char.toNat, b < 0x80 := by
    intro b inside
    obtain ⟨c,there,rfl⟩ := List.mem_map.mp inside
    exact plain c there
  have read : Base64Url.bytes (encodedHeader lib options) = (JsonTexts.write (header options)).map Char.toNat := by
    rw [encodedHeader,bytes]
    exact Base64Url.bytesWrite _ fun b inside => (small b inside).trans (by decide)
  have text : Utf8.decode ((JsonTexts.write (header options)).map Char.toNat) = JsonTexts.write (header options) := by
    rw [Utf8.decodeAscii small,List.map_map]
    exact (List.map_congr_left fun c _ => Char.ofNat_toNat c).trans (List.map_id _)
  have filled : (encodedHeader lib options).toList ≠ [] := by
    intro empty
    have none : encodedHeader lib options = "" := String.toList_inj.mp (empty.trans String.toList_empty.symm)
    rw [none] at read
    exact absurd read (by simp [header,JsonTexts.write,Base64Url.bytes,Base64Url.octets])
  have whole : (encodedHeader lib options).toList.takeWhile (fun c => decide (c ≠ '.')) = (encodedHeader lib options).toList :=
    List.takeWhile_eq_self_iff.mpr fun c inside => decide_eq_true (pointFree _ c inside)
  have proper : JsonTexts.Proper (header options) :=
    headerProper fun kid named u inside => (ascii kid named u inside).trans (by decide)
  unfold decodeHeader
  dsimp only
  rw [whole,if_neg filled,String.ofList_toList,read,text,JsonTexts.readWrite proper]
  rfl

theorem headerFields : (header options).field "alg" = some (.text (utf16 options.algorithm)) ∧
    (header options).field "kid" = options.keyid.map Value.text := by
  have names : utf16 "typ" ≠ utf16 "alg" ∧ utf16 "kid" ≠ utf16 "alg" ∧ utf16 "typ" ≠ utf16 "kid" ∧ utf16 "alg" ≠ utf16 "kid" := by
    decide
  obtain ⟨typ,kid,typ',alg⟩ := names
  cases named : options.keyid <;> simp [header,named,Value.field,typ,kid,typ',alg]

/-- A key id of ASCII characters comes through. -/
theorem carriesAscii (laws : Documented lib) {kid : Units} (shown : kid ≠ []) (ascii : ∀ u ∈ kid, u < 0x80) : Carries lib kid := by
  have algorithm : ∀ u ∈ utf16 JWT_ASYMMETRIC_ALGORITHM, u < 0x80 := by decide
  refine ⟨_,headerDecoded laws algorithm fun other named => by cases named; exact ascii,?_,?_⟩
  · rw [headerFields.1]
    exact decide_eq_true rfl
  · rw [supplied,headerFields.2]
    simp [Value.truthy,shown]

end Headers

section Rotation

variable {Private Public : Type} {lib : Library Private Public} {config : ConfigService} {store : Store Private Public}
  {entry : Value} {kid : Units} {privateKey : Private} {publicKey : Public} {token : Token}

def keyOptions (kid : Units) : SignOptions := ⟨.text (utf16 "15m"),JWT_ASYMMETRIC_ALGORITHM,some kid⟩

structure SignedBy (lib : Library Private Public) (kid : Units) (privateKey : Private) (token : Token) : Prop where
  algorithm : token.algorithm = JWT_ASYMMETRIC_ALGORITHM
  header : decodeHeader token.raw.toList = decodeHeader (encodedHeader lib (keyOptions kid)).toList
  signature : lib.sign JWT_ASYMMETRIC_ALGORITHM (.keyObject privateKey) token.input = some token.signature

theorem signedBy {active : ActiveKey Private Public} (there : store.activeKey = some active) {payload : String}
    (signed : sign lib store payload = some token) : SignedBy lib active.kid active.privateKey token := by
  have key : (jwtModuleOptions store).signingKey = .ok (.keyObject active.privateKey) := by
    show signingKey store = _
    rw [signingKey,there]
  have options : (jwtModuleOptions store).signOptions = keyOptions active.kid := by
    simp [jwtModuleOptions,keyOptions,there]
  unfold sign at signed
  dsimp only at signed
  rw [key,options] at signed
  obtain ⟨signature,made,rfl⟩ := Option.map_eq_some_iff.mp signed
  exact ⟨rfl,decodeSigned payload signature _,made⟩

theorem verifiesMatching (laws : Documented lib) (signed : SignedBy lib kid privateKey token) (carries : Carries lib kid)
    {key : LoadedKey Private Public} (listed : get? store.keys kid = some key) :
    Verifies lib store token ↔ key.publicKey = lib.publicOf privateKey := by
  obtain ⟨read,decoded,alg,named⟩ := carries
  have found : (jwtModuleOptions store).verificationKey token.raw = .ok (.keyObject key.publicKey) := by
    show verificationKeyFor store token.raw.toList = _
    rw [verificationKeyFor,signed.header]
    simp only [keyOptions,decoded,alg,if_true,named,listed]
  have allowed : token.algorithm ∈ (jwtModuleOptions store).algorithms := by
    have filled : store.keys.isEmpty = false := List.isEmpty_eq_false_iff.mpr (List.ne_nil_of_mem (getKid listed).2)
    show _ ∈ verifyAlgorithms store
    simp [verifyAlgorithms,filled,signed.algorithm]
  rw [← laws.pair privateKey token.input token.signature signed.signature key.publicKey,← signed.algorithm]
  constructor
  · rintro ⟨_,other,same,verified⟩
    cases found.symm.trans same
    exact verified
  · exact fun verified => ⟨allowed,_,found,verified⟩

section Alone

def loneEntry (kid : Units) (pem : Value) (own : Option Value) : Value :=
  .object ([(utf16 "kid",.text kid),(utf16 "privateKey",pem)] ++ own.toList.map fun value => (utf16 "publicKey",value))

/-- The configuration of one entry only. -/
def lone (kid : Units) (pem : Value) (own : Option Value) : ConfigService where
  get name := if name = "JWT_SIGNING_KEYS" then some (String.ofList (JsonTexts.write (.array [loneEntry kid pem own]))) else none

variable {pem : Value} {own : Option Value}

theorem loneOther {name : String} (other : name ≠ "JWT_SIGNING_KEYS") : (lone kid pem own).get name = none := if_neg other

theorem loneRead (small : ∀ u ∈ kid, u < 0x10000) (secret : JsonTexts.Proper pem) (given : ∀ value ∈ own, JsonTexts.Proper value) :
    readKeyConfig (lone kid pem own) = .ok [loneEntry kid pem own] := by
  have units : ∀ s : String, ∀ u ∈ utf16 s, u < 0x10000 := by
    intro s u inside
    obtain ⟨c,_,inside⟩ := List.mem_flatMap.mp inside
    exact JsonTexts.codeSmall c u inside
  have proper : JsonTexts.Proper (.array [loneEntry kid pem own]) := by
    cases own with
    | none => exact ⟨⟨units _,small,units _,secret,trivial⟩,trivial⟩
    | some value => exact ⟨⟨units _,small,units _,secret,units _,given value rfl,trivial⟩,trivial⟩
  have shown : trim (String.ofList (JsonTexts.write (.array [loneEntry kid pem own]))) ≠ "" := by
    rw [trimShown,JsonTexts.write,List.any_cons]
    rfl
  have raw : signingKeys (lone kid pem own) = .ok (some (String.ofList (JsonTexts.write (.array [loneEntry kid pem own])))) := by
    rw [signingKeys,loneOther (by decide)]
    rfl
  refine exceptBind.mpr ⟨_,raw,?_⟩
  show parseKeys _ = _
  rw [parseKeys,if_neg shown,String.toList_ofList,JsonTexts.readWrite proper]

theorem loneFields : (loneEntry kid pem own).field "kid" = some (.text kid) ∧ (loneEntry kid pem own).field "privateKey" = some pem ∧
    (loneEntry kid pem own).field "publicKey" = own := by
  have names : utf16 "privateKey" ≠ utf16 "kid" ∧ utf16 "publicKey" ≠ utf16 "kid" ∧ utf16 "publicKey" ≠ utf16 "privateKey" ∧
      utf16 "kid" ≠ utf16 "publicKey" ∧ utf16 "privateKey" ≠ utf16 "publicKey" := by decide
  obtain ⟨a,b,c,d,e⟩ := names
  cases own <;> simp [loneEntry,Value.field,a,b,c,d,e]

theorem loneConstructed (proper : JsonTexts.Proper entry) (loaded : loadKey lib entry = .ok ⟨kid,some privateKey,publicKey⟩) :
    ∃ config store', construct lib config = .ok store' ∧ store'.keys = [⟨kid,some privateKey,publicKey⟩] ∧
      store'.legacySecret = none ∧ ∃ entry' ∈ entriesOf config, SameEntry entry entry' := by
  have its := loads loaded
  obtain ⟨pem,secret⟩ : ∃ pem, supplied entry "privateKey" = some pem := by
    cases inside : supplied entry "privateKey" with
    | some pem => exact ⟨pem,rfl⟩
    | none => cases its.without inside
  have named : kidOf entry = some kid := its.kid
  obtain ⟨text,shown⟩ : entry.field "kid" = some (.text kid) ∧ isBlank kid = false := by
    unfold kidOf at named
    split at named
    · split at named
      · cases named
      · rename_i found shown
        cases named
        exact ⟨found,by simpa using shown⟩
    · cases named
  have given : ∀ name value, supplied entry name = some value → entry.field name = some value ∧ value.truthy = true :=
    fun name value there => Option.filter_eq_some_iff.mp there
  have same : SameEntry entry (loneEntry kid pem (supplied entry "publicKey")) := by
    refine ⟨?_,?_,?_⟩
    · rw [named,kidOf,loneFields.1]
      simp [shown]
    · rw [secret,supplied,loneFields.2.1,Option.filter_some,if_pos (given _ _ secret).2]
    · rw [supplied.eq_def (loneEntry _ _ _),loneFields.2.2]
      cases own : supplied entry "publicKey" with
      | none => rfl
      | some value => rw [Option.filter_some,if_pos (given _ _ own).2]
  have read : readKeyConfig (lone kid pem (supplied entry "publicKey")) = .ok [loneEntry kid pem (supplied entry "publicKey")] :=
    loneRead (JsonTexts.fieldOfProper proper text)
    (JsonTexts.fieldOfProper proper (given _ _ secret).1) fun value there => JsonTexts.fieldOfProper proper (given _ _ there).1
  have listed : loadKeys lib [loneEntry kid pem (supplied entry "publicKey")] [] = .ok [⟨kid,some privateKey,publicKey⟩] :=
    exceptBind.mpr ⟨_,(loadSame same).symm.trans loaded,rfl⟩
  have active : resolveActiveKey (lone kid pem (supplied entry "publicKey")) [⟨kid,some privateKey,publicKey⟩] =
      .ok (some ⟨kid,privateKey,publicKey⟩) := by
    have free : requested (lone kid pem (supplied entry "publicKey")) = none := by
      rw [requested,loneOther (by decide)]
      rfl
    rw [resolveActiveKey,free]
    rfl
  refine ⟨_,_,constructed read listed active,rfl,?_,_,?_,same⟩
  · have noSecret : (lone kid pem (supplied entry "publicKey")).get "JWT_SECRET" = none := loneOther (by decide)
    exact congrArg present noSecret
  · rw [entriesOf,read]
    exact List.mem_singleton_self _

/-- A store of one key finds the key of a token only by the key id that the token carries. -/
theorem loneVerifies (laws : Documented lib) (signed : SignedBy lib kid privateKey token)
    (keys : store.keys = [⟨kid,some privateKey,publicKey⟩]) (secret : store.legacySecret = none) (verifies : Verifies lib store token) :
    Carries lib kid ∧ publicKey = lib.publicOf privateKey := by
  obtain ⟨_,key,found,_⟩ := verifies
  have carries : Carries lib kid := by
    have found : verificationKeyFor store token.raw.toList = .ok key := found
    unfold verificationKeyFor at found
    rw [signed.header] at found
    split at found
    · cases found
    · rename_i read decoded
      split at found
      · rename_i alg
        refine ⟨read,decoded,alg,?_⟩
        split at found
        · rename_i other named
          split at found
          · rename_i loaded there
            rw [keys] at there
            obtain ⟨same,inside⟩ := getKid there
            rw [List.mem_singleton.mp inside] at same
            rw [named,← same]
          · cases found
        · cases found
      · rw [secret] at found
        split at found <;> cases found
  have listed : get? store.keys kid = some ⟨kid,some privateKey,publicKey⟩ := by
    rw [keys]
    exact List.find?_cons_of_pos (decide_eq_true rfl)
  exact ⟨carries,(verifiesMatching laws signed carries listed).mp ⟨by assumption,key,found,by assumption⟩⟩

end Alone

section Configurations

theorem entriesProper (inside : entry ∈ entriesOf config) : JsonTexts.Proper entry := by
  unfold entriesOf at inside
  cases read : readKeyConfig config with
  | error refused => rw [read] at inside; cases inside
  | ok entries =>
    rw [read] at inside
    obtain ⟨raw,_,parsed⟩ := exceptBind.mp read
    cases raw with
    | none => cases parsed; cases inside
    | some raw =>
      have parsed : parseKeys raw = .ok entries := parsed
      unfold parseKeys at parsed
      split at parsed
      · cases parsed; cases inside
      · split at parsed
        · cases parsed
        · rename_i accepted
          cases parsed
          exact JsonTexts.itemProper (JsonTexts.readProper accepted) inside
        · cases parsed

theorem eachLoaded (built : Constructs lib config store) (inside : entry ∈ entriesOf config) : ∃ key, loadKey lib entry = .ok key := by
  obtain ⟨i,here,rfl⟩ := List.getElem_of_mem inside
  exact ⟨_,built.each.get here (by rw [← built.each.length_eq]; exact here)⟩

/-- The same entry is loaded as the same key, under its id. -/
theorem sameListed {config' : ConfigService} {store' : Store Private Public} (built : Constructs lib config store)
    (built' : Constructs lib config' store') (same : ListsSame config config' kid) : get? store'.keys kid = get? store.keys kid := by
  obtain ⟨entry,inside,entry',inside',named,same⟩ := same
  obtain ⟨key,loaded⟩ := eachLoaded built inside
  rw [getListed built inside loaded named,getListed built' inside' ((loadSame same).symm.trans loaded) (same.1.symm.trans named)]

def privateOf (lib : Library Private Public) (entry : Value) : Option Private :=
  (supplied entry "privateKey").bind fun pem => (create lib.createPrivateKey pem).toOption

theorem legacyKey {raw : List Char} {secret : String} {expiresIn : Value}
    (decoded : decodeHeader raw = some (header ⟨expiresIn,LEGACY_ALGORITHM,none⟩)) (accepts : store.acceptLegacy = true)
    (held : store.legacySecret = some secret) : verificationKeyFor store raw = .ok (.secret secret) := by
  have other : isText JWT_ASYMMETRIC_ALGORITHM (some (.text (utf16 LEGACY_ALGORITHM))) = false := by decide
  have alike : isText LEGACY_ALGORITHM (some (.text (utf16 LEGACY_ALGORITHM))) = true := by decide
  unfold verificationKeyFor
  rw [decoded]
  simp only [headerFields.1,other,alike,accepts,held,Bool.false_eq_true,if_false,Bool.and_self,if_true]

/-- With no keys a token is signed and verified under the secret. -/
theorem legacyVerifies (laws : Documented lib) (built : Constructs lib config store) (none : store.activeKey = none)
    {payload : String} (signed : sign lib store payload = some token) :
    Verifies lib store token ∧ (jwtModuleOptions store).signOptions.keyid = .none := by
  have keyid : (jwtModuleOptions store).signOptions.keyid = .none := by simp [jwtModuleOptions,none]
  refine ⟨?_,keyid⟩
  cases secret : store.legacySecret with
  | none =>
    have key : (jwtModuleOptions store).signingKey = .error (.error (utf16 "JWT_SECRET is not configured")) := by
      show signingKey store = _
      rw [signingKey,none,secret]
    unfold sign at signed
    dsimp only at signed
    rw [key] at signed
    cases signed
  | some secret' =>
    have key : (jwtModuleOptions store).signingKey = .ok (.secret secret') := by
      show signingKey store = _
      rw [signingKey,none,secret]
    have options : (jwtModuleOptions store).signOptions = ⟨.text (utf16 "15m"),LEGACY_ALGORITHM,.none⟩ := by
      simp [jwtModuleOptions,none]
    have accepts : store.acceptLegacy = true := by rw [built.acceptLegacy,none]; rfl
    unfold sign at signed
    dsimp only at signed
    rw [key,options] at signed
    obtain ⟨signature,made,rfl⟩ := Option.map_eq_some_iff.mp signed
    have ascii : ∀ u ∈ utf16 LEGACY_ALGORITHM, u < 0x80 := by decide
    have decoded := (decodeSigned payload signature _).trans
      (@headerDecoded _ _ lib ⟨.text (utf16 "15m"),LEGACY_ALGORITHM,.none⟩ laws ascii nofun)
    refine ⟨?_,.secret secret',?_,(laws.shared secret' _ signature made secret').mpr rfl⟩
    · show _ ∈ verifyAlgorithms store
      simp [verifyAlgorithms,accepts,secret]
    · exact legacyKey decoded accepts secret

theorem signsStrong (laws : Documented lib) {active : ActiveKey Private Public} (there : store.activeKey = some active)
    (strong : usable lib (lib.publicOf active.privateKey) = true) (payload : String) : ∃ token, sign lib store payload = some token := by
  have key : (jwtModuleOptions store).signingKey = .ok (.keyObject active.privateKey) := by
    show signingKey store = _
    rw [signingKey,there]
  have algorithm : (jwtModuleOptions store).signOptions.algorithm = JWT_ASYMMETRIC_ALGORITHM := by simp [jwtModuleOptions,there]
  rw [← Option.isSome_iff_exists]
  unfold sign
  dsimp only
  rw [key]
  dsimp only
  rw [Option.isSome_map,algorithm,laws.signs,strong]

end Configurations

/-- Tokens verify here and after every rotation that keeps the entry, when the id of the key that
signs comes through the header and a public key of its own is that of its private key. -/
theorem trustedIff (laws : Documented lib) (accepted : construct lib config = .ok store) :
    Trusted lib config store ↔ ∀ entry privateKey, activeEntry config = some entry → privateOf lib entry = some privateKey →
      usable lib (lib.publicOf privateKey) = true → (∀ kid ∈ kidOf entry, Carries lib kid) ∧ Paired lib entry privateKey := by
  have built := constructs accepted
  obtain ⟨without,loaded⟩ := activeLoaded built
  cases there : store.activeKey with
  | none =>
    have noEntry : activeEntry config = none := by
      have each := built.each
      rw [without there] at each
      have empty : entriesOf config = [] := List.forall₂_nil_right_iff.mp each
      unfold activeEntry
      rw [empty]
      split <;> rfl
    refine iff_of_true ⟨fun payload token signed => (legacyVerifies laws built there signed).1,?_⟩ fun _ _ found => by
      cases noEntry.symm.trans found
    intro payload token signed config' store' _ kid named
    cases (legacyVerifies laws built there signed).2.symm.trans named
  | some active =>
    obtain ⟨entry,inside,chosen,loaded⟩ := loaded active there
    have its := loads loaded
    have secret : privateOf lib entry = some active.privateKey := by
      cases given : supplied entry "privateKey" with
      | none => cases its.without given
      | some pem =>
        obtain ⟨privateKey,created,same⟩ := its.secret pem given
        cases same
        rw [privateOf,given]
        exact congrArg Except.toOption created
    constructor
    · intro trusted entry' privateKey found held strong
      cases chosen.symm.trans found
      cases secret.symm.trans held
      obtain ⟨token,signed⟩ := signsStrong laws there strong ""
      have keyid : (jwtModuleOptions store).signOptions.keyid = some active.kid := by simp [jwtModuleOptions,there]
      obtain ⟨config',store',accepted',keys,noSecret,entry',inside',same⟩ := loneConstructed (entriesProper inside) loaded
      have verifies := trusted.elsewhere "" token signed config' store' accepted' active.kid keyid
        ⟨entry,inside,entry',inside',its.kid,same⟩
      obtain ⟨carries,matching⟩ := loneVerifies laws (signedBy there signed) keys noSecret verifies
      refine ⟨fun kid named => ?_,fun pem publicKey given created => ?_⟩
      · cases its.kid.symm.trans named
        exact carries
      · cases created.symm.trans (its.own pem given)
        exact matching
    · intro condition
      have holds : ∀ payload token, sign lib store payload = some token →
          Carries lib active.kid ∧ active.publicKey = lib.publicOf active.privateKey := by
        intro payload token signed
        have strong := laws.signs active.privateKey token.input
        rw [(signedBy there signed).signature] at strong
        obtain ⟨carries,paired⟩ := condition entry active.privateKey chosen secret strong.symm
        refine ⟨carries _ its.kid,?_⟩
        cases given : supplied entry "publicKey" with
        | none => exact its.derived given active.privateKey rfl
        | some pem => exact paired pem _ given (its.own pem given)
      have listed := getListed built inside loaded its.kid
      constructor
      · intro payload token signed
        obtain ⟨carries,matching⟩ := holds payload token signed
        exact (verifiesMatching laws (signedBy there signed) carries listed).mpr matching
      · intro payload token signed config' store' accepted' kid named same
        obtain ⟨carries,matching⟩ := holds payload token signed
        have keyid : (jwtModuleOptions store).signOptions.keyid = some active.kid := by simp [jwtModuleOptions,there]
        cases keyid.symm.trans named
        exact (verifiesMatching laws (signedBy there signed) carries
          ((sameListed built (constructs accepted') same).trans listed)).mpr matching

def signatureOf : Key Bool → String
  | .keyObject true => "1"
  | .keyObject false => "2"
  | .secret text => text

/-- Two pairs of keys, and a header that is written one byte for a unit. -/
def pairs : Library Bool Bool where
  createPrivateKey pem := if pem = utf16 "private 1" then some true else if pem = utf16 "private 2" then some false else none
  createPublicKey pem := if pem = utf16 "public 1" then some true else if pem = utf16 "public 2" then some false else none
  publicOf key := key
  asymmetricKeyType _ := "rsa"
  modulusLength _ := some 2048
  headerBytes text := text.flatMap fun c => (codeUnits c).map (· % 256)
  sign _ key _ := some (signatureOf key)
  verify _ key _ signature := signature = signatureOf key

theorem pairsDocumented : Documented pairs where
  bytes := by
    intro text ascii
    induction text with
    | nil => rfl
    | cons c rest ih =>
      obtain ⟨low,others⟩ := List.forall_mem_cons.mp ascii
      have unit : (codeUnits c).map (· % 256) = [c.toNat] := by
        rw [codeUnits,if_pos (by omega),List.map_singleton,Nat.mod_eq_of_lt (by omega)]
      have split : pairs.headerBytes (c :: rest) = (codeUnits c).map (· % 256) ++ pairs.headerBytes rest := rfl
      rw [split,unit,ih others]
      rfl
  signs := fun _ _ => rfl
  pair := by
    intro key input signature signed publicKey
    cases signed
    have all : ∀ key publicKey : Bool, decide (signatureOf (.keyObject key) = signatureOf (.keyObject publicKey)) = true ↔
        publicKey = key := by decide
    exact all key publicKey
  shared := by
    intro secret input signature signed other
    cases signed
    exact decide_eq_true_iff.trans eq_comm

def ofOne (own : Option Value) : ConfigService := lone (utf16 "a") (.text (utf16 "private 1")) own

def storeOf (publicKey : Bool) : Store Bool Bool :=
  ⟨[⟨utf16 "a",some true,publicKey⟩],some ⟨utf16 "a",true,publicKey⟩,none,false⟩

theorem createsSecret : create pairs.createPrivateKey (.text (utf16 "private 1")) = .ok true := by
  have plain : normalizePem (utf16 "private 1") = utf16 "private 1" := by decide
  have made : pairs.createPrivateKey (utf16 "private 1") = some true := by
    unfold pairs
    dsimp only
    rw [if_pos rfl]
  rw [create,plain,made]

theorem createsOther : create pairs.createPublicKey (.text (utf16 "public 2")) = .ok false := by
  have plain : normalizePem (utf16 "public 2") = utf16 "public 2" := by decide
  have made : pairs.createPublicKey (utf16 "public 2") = some false := by
    have other : utf16 "public 2" ≠ utf16 "public 1" := by decide
    unfold pairs
    dsimp only
    rw [if_neg other,if_pos rfl]
  rw [create,plain,made]

theorem ofOneSupplied (own : Option Value) : kidOf (loneEntry (utf16 "a") (.text (utf16 "private 1")) own) = some (utf16 "a") ∧
    supplied (loneEntry (utf16 "a") (.text (utf16 "private 1")) own) "privateKey" = some (.text (utf16 "private 1")) := by
  have shown : isBlank (utf16 "a") = false := by decide
  have filled : Value.truthy (.text (utf16 "private 1")) = true := by decide
  refine ⟨?_,?_⟩
  · rw [kidOf,loneFields.1]
    simp [shown]
  · rw [supplied,loneFields.2.1,Option.filter_some,if_pos filled]

theorem ofOneRead {own : Option Value} (given : ∀ value ∈ own, JsonTexts.Proper value) :
    readKeyConfig (ofOne own) = .ok [loneEntry (utf16 "a") (.text (utf16 "private 1")) own] := by
  have kid : ∀ u ∈ utf16 "a", u < 0x10000 := by decide
  have secret : ∀ u ∈ utf16 "private 1", u < 0x10000 := by decide
  exact loneRead kid secret given

theorem ofOneConstructed {own : Option Value} (given : ∀ value ∈ own, JsonTexts.Proper value) {publicKey : Bool}
    (loaded : loadKey pairs (loneEntry (utf16 "a") (.text (utf16 "private 1")) own) = .ok ⟨utf16 "a",some true,publicKey⟩) :
    construct pairs (ofOne own) = .ok (storeOf publicKey) := by
  have listed : loadKeys pairs [loneEntry (utf16 "a") (.text (utf16 "private 1")) own] [] = .ok [⟨utf16 "a",some true,publicKey⟩] :=
    exceptBind.mpr ⟨_,loaded,rfl⟩
  have free : requested (ofOne own) = none := by
    rw [requested,ofOne,loneOther (by decide)]
    rfl
  have active : resolveActiveKey (ofOne own) [⟨utf16 "a",some true,publicKey⟩] = .ok (some ⟨utf16 "a",true,publicKey⟩) := by
    rw [resolveActiveKey,free]
    rfl
  rw [constructed (ofOneRead given) listed active,ofOne,loneOther (by decide),loneOther (by decide)]
  have falsy : isTruthy none = false := by decide +kernel
  rw [falsy]
  rfl

theorem pairedConstructed : construct pairs (ofOne none) = .ok (storeOf true) := by
  refine ofOneConstructed (fun _ there => by cases there) ?_
  have own : supplied (loneEntry (utf16 "a") (.text (utf16 "private 1")) none) "publicKey" = none := by
    rw [supplied,loneFields.2.2]
    rfl
  rw [loadKey,(ofOneSupplied none).1]
  dsimp only
  rw [(ofOneSupplied none).2,own]
  exact exceptBind.mpr ⟨true,createsSecret,rfl⟩

theorem unpairedConstructed : construct pairs (ofOne (some (.text (utf16 "public 2")))) = .ok (storeOf false) := by
  have units : ∀ u ∈ utf16 "public 2", u < 0x10000 := by decide
  have filled : Value.truthy (.text (utf16 "public 2")) = true := by decide
  refine ofOneConstructed (fun _ there => by cases there; exact units) ?_
  have own : supplied (loneEntry (utf16 "a") (.text (utf16 "private 1")) (some (.text (utf16 "public 2")))) "publicKey" =
      some (.text (utf16 "public 2")) := by
    rw [supplied,loneFields.2.2,Option.filter_some,if_pos filled]
  rw [loadKey,(ofOneSupplied _).1]
  dsimp only
  rw [(ofOneSupplied _).2,own]
  exact exceptBind.mpr ⟨true,createsSecret,exceptBind.mpr ⟨false,createsOther,rfl⟩⟩

theorem ofOneCarries : Carries pairs (utf16 "a") := by
  refine carriesAscii pairsDocumented ?_ ?_ <;> decide

theorem trustedAlone : Trusted pairs (ofOne none) (storeOf true) := by
  refine (trustedIff pairsDocumented pairedConstructed).mpr fun entry privateKey found held _ => ?_
  have only : activeEntry (ofOne none) = some (loneEntry (utf16 "a") (.text (utf16 "private 1")) none) := by
    obtain ⟨_,loaded⟩ := activeLoaded (constructs pairedConstructed)
    obtain ⟨entry,inside,chosen,_⟩ := loaded ⟨utf16 "a",true,true⟩ rfl
    rw [chosen]
    rw [entriesOf,ofOneRead fun _ there => by cases there] at inside
    exact congrArg some (List.mem_singleton.mp inside)
  cases only.symm.trans found
  refine ⟨fun kid named => ?_,fun pem publicKey given => ?_⟩
  · cases (ofOneSupplied none).1.symm.trans named
    exact ofOneCarries
  · rw [supplied,loneFields.2.2] at given
    cases given

/-- A key pair of which the public key is another one's: no token that it signs verifies. -/
theorem otherPublicKey : construct pairs (ofOne (some (.text (utf16 "public 2")))) = .ok (storeOf false) ∧
    ¬ Trusted pairs (ofOne (some (.text (utf16 "public 2")))) (storeOf false) := by
  refine ⟨unpairedConstructed,fun trusted => ?_⟩
  have active : (storeOf false).activeKey = some ⟨utf16 "a",true,false⟩ := rfl
  have listed : get? (storeOf false).keys (utf16 "a") = some ⟨utf16 "a",some true,false⟩ := List.find?_cons_of_pos (decide_eq_true rfl)
  obtain ⟨token,signed⟩ := signsStrong pairsDocumented active rfl ""
  have matching := (verifiesMatching pairsDocumented (signedBy active signed) ofOneCarries listed).mp (trusted.here "" token signed)
  cases matching

end Rotation

end HireSettle.JwtKeyStore
