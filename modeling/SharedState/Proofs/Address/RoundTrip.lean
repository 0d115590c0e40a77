import SharedState.Proofs.Address.Spellings

/-!
# Writing addresses

A host and a port can be written as an address in such a way that they are read
again. In brackets every host that was read from anywhere can be written, so
what is read can be written down and read once more. A URL never yields a host
that brackets would spoil.
-/

namespace SharedState

open SharedState.Text

/-! ## Hosts in URLs -/

namespace Address.Url

/-- A letter that is no bracket. -/
def Unbracketed (letter : Char) : Prop := letter ≠ '[' ∧ letter ≠ ']'

instance (letter : Char) : Decidable (Unbracketed letter) := inferInstanceAs (Decidable (_ ∧ _))

theorem unbracketed_of_all {text : String} (plain : text.toList.all (Unbracketed ·) = true) :
    ∀ letter ∈ text.toList, Unbracketed letter :=
  fun letter member => of_decide_eq_true (List.all_eq_true.mp plain letter member)

theorem unbracketed_of_isDigit {letter : Char} (digit : letter.isDigit = true) :
    Unbracketed letter := by
  constructor <;> rintro rfl <;> cases digit

theorem unbracketed_digitChar : ∀ digit < 16, Unbracketed (Nat.digitChar digit) ∧
    Unbracketed (Nat.digitChar digit).toUpper := by
  decide

theorem unbracketed_hex (value : Nat) : ∀ letter ∈ Hex.ofNat value, Unbracketed letter := by
  intro letter member
  have digit := Hex.isSome_digit?_of_mem_ofNat member
  constructor <;> rintro rfl <;> cases digit

theorem unbracketed_joined (groups : List Nat) :
    ∀ letter ∈ (Ipv6.joined groups).toList, Unbracketed letter := by
  induction groups with
  | nil => simp [Ipv6.joined]
  | cons first rest ih =>
      cases rest with
      | nil => simpa [Ipv6.joined] using unbracketed_hex first
      | cons second others =>
          intro letter member
          simp only [Ipv6.joined, List.map_cons, String.intercalate_cons_cons, String.toList_append,
            String.toList_ofList, List.mem_append] at member ih
          rcases member with (front | colon) | back
          · exact unbracketed_hex first letter front
          · exact unbracketed_of_all (by decide) letter colon
          · exact ih letter back

theorem unbracketed_halves (group : Nat) :
    ∀ letter ∈ (Ipv6.halves group).toList, Unbracketed letter := by
  intro letter member
  simp only [Ipv6.halves, String.toList_append, List.mem_append] at member
  rcases member with (front | stop) | back
  · exact unbracketed_of_isDigit (Decimal.isDigit_of_mem_ofNat front)
  · exact unbracketed_of_all (by decide) letter stop
  · exact unbracketed_of_isDigit (Decimal.isDigit_of_mem_ofNat back)

theorem unbracketed_render (groups : List Nat) :
    ∀ letter ∈ (Ipv6.render groups).toList, Unbracketed letter := by
  intro letter member
  unfold Ipv6.render at member
  split at member
  · simp only [String.toList_append, List.mem_append] at member
    rcases member with ((start | high) | stop) | low
    · exact unbracketed_of_all (by decide) letter start
    · exact unbracketed_halves _ letter high
    · exact unbracketed_of_all (by decide) letter stop
    · exact unbracketed_halves _ letter low
  · dsimp only at member
    split at member
    · simp only [String.toList_append, List.mem_append] at member
      rcases member with (front | gap) | back
      · exact unbracketed_joined _ letter front
      · exact unbracketed_of_all (by decide) letter gap
      · exact unbracketed_joined _ letter back
    · exact unbracketed_joined _ letter member

theorem unbracketed_encode {plain : Char → Bool} {letters : List Char}
    (kept : ∀ letter ∈ letters, Unbracketed letter) :
    ∀ letter ∈ Percent.encode plain letters, Unbracketed letter := by
  intro letter member
  obtain ⟨source, isSource, written⟩ := List.mem_flatMap.mp member
  split at written
  · rw [List.mem_singleton.mp written]
    exact kept source isSource
  · obtain ⟨byte, -, digit⟩ := List.mem_flatMap.mp written
    have small : byte.toNat < 256 := byte.toNat_lt
    have high := (unbracketed_digitChar (byte.toNat / 16) (by omega)).2
    have low := (unbracketed_digitChar (byte.toNat % 16) (by omega)).2
    simp only [Hex.ofByte, List.map_cons, List.map_nil, List.mem_cons, List.not_mem_nil,
      or_false] at digit
    rcases digit with rfl | rfl | rfl
    · decide
    · exact high
    · exact low

theorem unbracketed_of_host? {letters : List Char} {host : String}
    (found : host? letters = some host) : ∀ letter ∈ host.toList, Unbracketed letter := by
  unfold host? at found
  split at found
  · split at found
    · obtain ⟨groups, -, rfl⟩ := Option.map_eq_some_iff.mp found
      exact unbracketed_render groups
    · cases found
  · split at found
    · cases found
    · next allowed =>
        cases found
        rw [String.toList_ofList]
        refine unbracketed_encode fun letter member => ⟨?_, ?_⟩
        · rintro rfl
          exact allowed (List.any_eq_true.mpr ⟨_, member, by decide⟩)
        · rintro rfl
          exact allowed (List.any_eq_true.mpr ⟨_, member, by decide⟩)

theorem lt_of_port? {letters : List Char} {found : Option Nat × List Char}
    (read : port? letters = some found) : found.1.getD Endpoint.defaultPort < 0x10000 := by
  have none : Endpoint.defaultPort < 0x10000 := by decide
  unfold port? at read
  split at read
  · dsimp only at read
    split at read
    · split at read
      · cases read
        exact none
      · obtain ⟨number, isNumber, rfl⟩ := Option.map_eq_some_iff.mp read
        exact Decimal.natural?_lt isNumber
    · cases read
  · cases read
    exact none

/-- The host and the port of a URL come from the rules for them. -/
theorem of_split? {encrypted : Bool} {letters : List Char} {parts : Parts}
    (found : split? encrypted letters = some parts) :
    (∀ letter ∈ parts.host.toList, Unbracketed letter) ∧
      parts.port.getD Endpoint.defaultPort < 0x10000 := by
  simp only [split?, Option.bind_eq_bind, Option.bind_eq_some_iff] at found
  obtain ⟨host, isHost, port, isPort, made⟩ := found
  split at made
  · cases made
  · cases made
    exact ⟨unbracketed_of_host? isHost, lt_of_port? isPort⟩

theorem of_parts? {address : String} {parts : Parts} (found : parts? address = some parts) :
    (∀ letter ∈ parts.host.toList, Unbracketed letter) ∧
      parts.port.getD Endpoint.defaultPort < 0x10000 := by
  unfold parts? at found
  split at found
  · exact of_split? found
  · exact of_split? found
  · cases found

theorem require_eq_ok_iff {Value : Type} {found : Option Value} {reason : String} {value : Value} :
    require found reason = .ok value ↔ found = some value := by
  cases found <;> simp [require]

theorem exists_of_bind {Error First Result : Type} {first : Except Error First}
    {next : First → Except Error Result} {result : Result} (ok : first >>= next = .ok result) :
    ∃ value, first = .ok value ∧ next value = .ok result := by
  cases first with
  | error error => cases ok
  | ok value => exact ⟨value, rfl, ok⟩

/-- A URL names its host and its port by the rules, or takes the default for the
port. -/
theorem parts_of_endpoint {address : String} {found : Endpoint}
    (ok : endpoint address = .ok found) :
    ∃ parts, parts? address = some parts ∧ parts.host ≠ "" ∧ found.host = parts.host ∧
      found.port = parts.port.getD Endpoint.defaultPort := by
  obtain ⟨parts, isParts, ok⟩ := exists_of_bind ok
  dsimp only at ok
  by_cases unnamed : parts.host.isEmpty = true
  · rw [if_pos unnamed] at ok
    cases ok
  rw [if_neg unnamed] at ok
  by_cases encrypted : parts.encrypted = true
  · rw [if_pos encrypted] at ok
    cases ok
  rw [if_neg encrypted] at ok
  obtain ⟨db, -, ok⟩ := exists_of_bind ok
  obtain ⟨username, -, ok⟩ := exists_of_bind ok
  obtain ⟨password, -, ok⟩ := exists_of_bind ok
  obtain ⟨protocol, -, ok⟩ := exists_of_bind ok
  cases ok
  exact ⟨parts, require_eq_ok_iff.mp isParts, by simpa using unnamed, rfl, rfl⟩

/-- The host of a URL has no brackets at its ends, and its port is one. -/
theorem bare_of_endpoint {address : String} {found : Endpoint}
    (ok : endpoint address = .ok found) : Bare found.host.toList ∧ found.port < 0x10000 := by
  obtain ⟨parts, isParts, named, host, port⟩ := parts_of_endpoint ok
  obtain ⟨unbracketed, small⟩ := of_parts? isParts
  rw [host, port]
  refine ⟨⟨by simpa using named, ?_, ?_⟩, small⟩
  · exact fun first => (unbracketed '[' (List.mem_of_head? first)).1 rfl
  · exact fun last => (unbracketed ']' (List.mem_of_getLast? last)).2 rfl

end Address.Url

/-! ## Written addresses -/

namespace Address

/-- A port that was written is read again. -/
theorem number?_ofNat {port : Nat} (small : port < 0x10000) (opening closing : Nat)
    (host : List Char) :
    Spelling.number? ⟨opening, host, closing, some (Decimal.ofNat port).toList⟩ = some port := by
  rw [Spelling.number?, Option.elim_some, port?, String.ofList_toList]
  exact Decimal.natural?_ofNat small

variable {host : String} {port : Nat}

/-- A host in brackets, with a port. -/
def write (host : String) (port : Nat) : String := "[" ++ host ++ "]:" ++ Decimal.ofNat port

theorem parse?_write (bare : Bare host.toList) (small : port < 0x10000) :
    parse? (write host port) = some (host, port) := by
  refine Spelling.parse?_eq_some_iff_readable.mpr
    ⟨⟨1, host.toList, 1, some (Decimal.ofNat port).toList⟩, ⟨?_, rfl, number?_ofNat small ..⟩,
      ⟨bare, nofun⟩⟩
  simp [write, Spelling.text, Spelling.name, enclose]

theorem parse?_bracketed (bare : Bare host.toList) :
    parse? ("[" ++ host ++ "]") = some (host, Endpoint.defaultPort) := by
  refine Spelling.parse?_eq_some_iff_readable.mpr
    ⟨⟨1, host.toList, 1, none⟩, ⟨?_, rfl, rfl⟩, ⟨bare, ?_⟩⟩
  · simp [Spelling.text, Spelling.name, enclose]
  · exact fun _ front back split => Spelling.mem_of_enclose_eq split

theorem parse?_unbracketed (bare : Bare host.toList) (small : port < 0x10000) :
    parse? (host ++ ":" ++ Decimal.ofNat port) = some (host, port) := by
  refine Spelling.parse?_eq_some_iff_readable.mpr
    ⟨⟨0, host.toList, 0, some (Decimal.ofNat port).toList⟩, ⟨?_, rfl, number?_ofNat small ..⟩,
      ⟨bare, nofun⟩⟩
  simp [Spelling.text, Spelling.name, enclose]

theorem parse?_host (bare : Bare host.toList) (colonless : ':' ∉ host.toList) :
    parse? host = some (host, Endpoint.defaultPort) := by
  refine Spelling.parse?_eq_some_iff_readable.mpr
    ⟨⟨0, host.toList, 0, none⟩, ⟨?_, rfl, rfl⟩, ⟨bare, ?_⟩⟩
  · simp [Spelling.text, Spelling.name, enclose]
  · intro _ front back split
    have inside : ':' ∈ front ++ ':' :: back := by simp
    rw [← split] at inside
    exact absurd (by simpa [Spelling.name, enclose] using inside) colonless

theorem bare_of_parse? {address : String} (read : parse? address = some (host, port)) :
    Bare host.toList ∧ port < 0x10000 := by
  obtain ⟨⟨opening, letters, closing, digits⟩, ⟨-, isHost, number⟩, bare, -⟩ :=
    Spelling.parse?_eq_some_iff_readable.mp read
  refine ⟨isHost ▸ bare, ?_⟩
  cases digits with
  | none =>
      cases number
      decide
  | some letters => exact Decimal.natural?_lt number

/-- No URL begins with a bracket. -/
theorem looksLike_eq_false {address : String} (opens : address.toList.head? = some '[') :
    Url.looksLike address = false := by
  obtain ⟨rest, shape⟩ := List.head?_eq_some_iff.mp opens
  rw [Url.looksLike, shape]
  rfl

theorem looksLike_write (host : String) (port : Nat) : Url.looksLike (write host port) = false :=
  looksLike_eq_false (by simp [write])

theorem looksLike_bracketed (host : String) : Url.looksLike ("[" ++ host ++ "]") = false :=
  looksLike_eq_false (by simp)

theorem looksLike_of_colonless (colonless : ':' ∉ host.toList) : Url.looksLike host = false := by
  rw [Bool.eq_false_iff]
  intro looks
  rw [Url.looksLike, Bool.or_eq_true, List.isPrefixOf_iff_prefix,
    List.isPrefixOf_iff_prefix] at looks
  rcases looks with start | start
  · exact colonless (start.subset (by decide))
  · exact colonless (start.subset (by decide))

end Address

namespace ServerSettings

open Address

variable {server : ServerSettings}

/-- Whatever is reached has a host without brackets at its ends. -/
theorem bare_of_endpoint {found : Endpoint} (ok : server.endpoint = .ok found) :
    Bare found.host.toList ∧ found.port < 0x10000 := by
  cases looks : Url.looksLike server.address with
  | true =>
      rw [endpoint, looks] at ok
      exact Url.bare_of_endpoint ok
  | false =>
      obtain ⟨host, port, read, rfl⟩ := (endpoint_eq_ok_iff looks).mp ok
      exact bare_of_parse? read

theorem endpoint_at (server : ServerSettings) {address host : String} {port : Nat}
    (plain : Url.looksLike address = false) (read : parse? address = some (host, port)) :
    ({ server with address } : ServerSettings).endpoint =
      .ok ⟨host, port, server.db, none, server.password, .resp2⟩ := by
  simp only [endpoint, plain, read, Bool.false_eq_true, if_false]

/-- Writing and reading addresses. A host without brackets at its ends is read
again if it is written in brackets, with or without a port, or before a port, or
alone if it has no colons. What is reached by any address at all, also by a URL,
has such a host, and so is reached as well by the address in brackets that its
host and port make up. The password and the database have no part in this; with
any address that is no URL they are the chosen ones, whatever they are. -/
theorem addresses_round_trip (server : ServerSettings) :
    let reading (address : String) := ({ server with address } : ServerSettings).endpoint
    let reached (host : String) (port : Nat) : Except RemoteError Endpoint :=
      .ok ⟨host, port, server.db, none, server.password, .resp2⟩
    (∀ host port, Bare host.toList → port < 0x10000 →
        reading ("[" ++ host ++ "]:" ++ Decimal.ofNat port) = reached host port ∧
          reading ("[" ++ host ++ "]") = reached host 6379 ∧
          (Url.looksLike (host ++ ":" ++ Decimal.ofNat port) = false →
            reading (host ++ ":" ++ Decimal.ofNat port) = reached host port) ∧
          (':' ∉ host.toList → reading host = reached host 6379)) ∧
      (∀ endpoint, server.endpoint = .ok endpoint →
        reading ("[" ++ endpoint.host ++ "]:" ++ Decimal.ofNat endpoint.port) =
          reached endpoint.host endpoint.port) ∧
      (Url.looksLike server.address = false → ∀ endpoint, server.endpoint = .ok endpoint →
        endpoint.db = server.db ∧ endpoint.password = server.password) := by
  intro reading reached
  have writes : ∀ {host port}, Bare host.toList → port < 0x10000 →
      reading (write host port) = reached host port :=
    fun bare small => server.endpoint_at (looksLike_write _ _) (parse?_write bare small)
  refine ⟨?_, ?_, ?_⟩
  · intro host port bare small
    refine ⟨writes bare small, ?_, ?_, ?_⟩
    · exact server.endpoint_at (looksLike_bracketed host) (parse?_bracketed bare)
    · exact fun plain => server.endpoint_at plain (parse?_unbracketed bare small)
    · intro colonless
      exact server.endpoint_at (looksLike_of_colonless colonless) (parse?_host bare colonless)
  · intro endpoint ok
    obtain ⟨bare, small⟩ := bare_of_endpoint ok
    exact writes bare small
  · intro plain endpoint ok
    obtain ⟨host, port, -, rfl⟩ := (endpoint_eq_ok_iff plain).mp ok
    exact ⟨rfl, rfl⟩

/-- A host with colons and brackets of its own, and a URL with a port by
default. -/
theorem addresses_round_trip_colons :
    let server : ServerSettings := ⟨"redis://u:p@[0:0::1]/3", some "p@[s]:1", 2, 5⟩
    ({ server with address := "[::1]:6379" } : ServerSettings).endpoint =
        .ok ⟨"::1", 6379, 2, none, some "p@[s]:1", .resp2⟩ ∧
      ({ server with address := "a]:[b:65535" } : ServerSettings).endpoint =
        .ok ⟨"a]:[b", 65535, 2, none, some "p@[s]:1", .resp2⟩ := by
  intro server
  obtain ⟨written, rewritten, -⟩ := addresses_round_trip server
  have known : server.endpoint = .ok ⟨"::1", 6379, 3, some "u", some "p", .resp2⟩ := by
    decide +kernel
  have bare : Bare "a]:[b".toList := ⟨by decide, by decide, by decide⟩
  obtain ⟨-, -, unbracketed, -⟩ := written "a]:[b" 65535 bare (by decide)
  have again := rewritten _ known
  have address : "[" ++ "::1" ++ "]:" ++ Decimal.ofNat 6379 = "[::1]:6379" := by decide
  rw [address] at again
  exact ⟨again, unbracketed (by decide)⟩

end ServerSettings

end SharedState
