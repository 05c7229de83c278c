import AdminConsole.Json.Codec

/-!
# Session tokens

The backend issues an opaque bearer token. It is kept in memory and under a fixed name in a store
that outlives the page. Only the backend judges whether a token is valid.
-/

namespace AdminConsole

/-- A bearer token. The empty one means that there is no session; it is sent all the same. -/
structure SessionToken where
  text : String
deriving DecidableEq, Repr

namespace SessionToken

def empty : SessionToken := ⟨""⟩

def isEmpty (t : SessionToken) : Bool := t.text.isEmpty

theorem isEmpty_iff {t : SessionToken} : t.isEmpty = true ↔ t.text = "" := String.isEmpty_iff

def bearer (t : SessionToken) : String := "Bearer " ++ t.text

theorem bearer_eq (t : SessionToken) : t.bearer = "Bearer " ++ t.text := rfl

def redacted (t : SessionToken) : String :=
  if t.isEmpty then "SessionToken(<empty>)" else "SessionToken(<redacted>)"

def codec : Json.Codec SessionToken := Json.Codec.text.iso (⟨·⟩) (·.text)

end SessionToken

/-! ## Stores -/

inductive StoreError where
  | unavailable (details : String)
  | writeFailed (name : String) (details : String)
deriving DecidableEq, Repr

namespace StoreError

def message : StoreError → String
  | .unavailable details => "token store unavailable: " ++ details
  | .writeFailed name details => "failed to write '" ++ name ++ "': " ++ details

theorem message_unavailable (details : String) :
    (unavailable details).message = "token store unavailable: " ++ details := rfl

theorem message_writeFailed (name details : String) :
    (writeFailed name details).message =
      "failed to write '" ++ name ++ "': " ++ details := rfl

end StoreError

/-- Named values that outlive the page. An empty value clears its entry. A refused write leaves the
store as it was. -/
class TokenStore (σ : Type) where
  get : σ → String → Option String
  set : σ → String → String → Except StoreError σ

def tokenName : String := "token"

/-- A store in memory. It counts the writes it accepts, and can be told to refuse them. -/
structure MemoryStore where
  entries : List (String × String)
  writes : Nat
  refusal : Option StoreError
deriving DecidableEq, Repr

namespace MemoryStore

def empty : MemoryStore := ⟨[], 0, none⟩

def ofToken (text : String) : MemoryStore := ⟨[(tokenName, text)], 0, none⟩

def get (s : MemoryStore) (name : String) : Option String := s.entries.lookup name

def erase (name : String) (entries : List (String × String)) : List (String × String) :=
  entries.filter (·.1 ≠ name)

def set (s : MemoryStore) (name value : String) : Except StoreError MemoryStore :=
  match s.refusal with
  | some e => .error e
  | none =>
    let others := erase name s.entries
    .ok { s with
      entries := if value.isEmpty then others else (name, value) :: others
      writes := s.writes + 1 }

instance : TokenStore MemoryStore where
  get := get
  set := set

theorem lookup_erase_self (name : String) (entries : List (String × String)) :
    (erase name entries).lookup name = none := by
  simp only [erase, List.lookup_eq_none_iff, List.mem_filter]
  rintro ⟨key, value⟩ ⟨-, h⟩
  exact bne_iff_ne.2 (Ne.symm (of_decide_eq_true h))

theorem get_set_self {s s' : MemoryStore} {name value : String}
    (h : s.set name value = .ok s') :
    s'.get name = if value = "" then none else some value := by
  simp only [set] at h
  split at h
  · contradiction
  · obtain rfl := Except.ok.inj h
    simp only [get, String.isEmpty_iff]
    split
    · exact lookup_erase_self _ _
    · exact List.lookup_cons_self

theorem lookup_erase_of_ne {name other : String} (h : other ≠ name)
    (entries : List (String × String)) :
    (erase name entries).lookup other = entries.lookup other := by
  induction entries with
  | nil => rfl
  | cons entry entries ih =>
    obtain ⟨key, value⟩ := entry
    by_cases hkey : key = name
    · have hother : (other == key) = false := beq_false_of_ne (hkey ▸ h)
      rw [List.lookup_cons, hother, ← ih]
      simp [erase, hkey]
    · have hkept : erase name ((key, value) :: entries) = (key, value) :: erase name entries := by
        simp [erase, hkey]
      rw [hkept, List.lookup_cons, List.lookup_cons, ih]

theorem get_set_of_ne {s s' : MemoryStore} {name other value : String}
    (h : s.set name value = .ok s') (hne : other ≠ name) : s'.get other = s.get other := by
  simp only [set] at h
  split at h
  · contradiction
  · obtain rfl := Except.ok.inj h
    simp only [get]
    split
    · exact lookup_erase_of_ne hne _
    · rw [List.lookup_cons, beq_false_of_ne hne]
      exact lookup_erase_of_ne hne _

theorem writes_set {s s' : MemoryStore} {name value : String} (h : s.set name value = .ok s') :
    s'.writes = s.writes + 1 := by
  simp only [set] at h
  split at h
  · contradiction
  · obtain rfl := Except.ok.inj h
    rfl

end MemoryStore

end AdminConsole
