import RemoteUnlock.Common.Address
import RemoteUnlock.Pair.Interleaving

/-!
# Wildcard addresses

`init` and `start` compare an address with the texts of wildcard addresses, where the parser
takes many more texts of the same address.  An address that has come into `config.json` is
no wildcard exactly if it has a digit other than zero (`neverWildcard_iff`).
-/

namespace RemoteUnlock.Pair

open Python Python.Items Common

/-- What `ipaddress.ip_address(ip)` raises. -/
def ipAddressRaises (ip : PyStr) : Option PyExc :=
  if (ipAddress ip).isSome then none else some .valueError

/-- The address that `_build_cert` names for a `san_ip`; an integer is one, and no container or
fraction looks like one. -/
def sanAddress : Json → Except PyExc (Option Address)
  | .null => .ok none
  | .bool value => .ok (if value then some (.v4 1) else none)
  | .str ip =>
      if ip = [] then .ok none
      else
        match ipAddress ip with
        | some address => .ok (some address)
        | none => .error .valueError
  | .int value =>
      if value = 0 then .ok none
      else if 0 < value ∧ value < 2 ^ 32 then .ok (some (.v4 value.toNat))
      else if 0 < value ∧ value < 2 ^ 128 then .ok (some (.v6 value.toNat none))
      else .error .valueError
  | value => if value.truthy then .error .valueError else .ok none

/-- What `_build_cert` raises for a `san_ip`. -/
def sanRaises (ip : Json) : Option PyExc :=
  match sanAddress ip with
  | .ok _ => none
  | .error exc => some exc

/-- What `start` checks of the address that it binds to. -/
def startCheck (data : Dict) : Except Failure Unit := do
  let bindIp ← item (py "listener_ip") data
  if bindIp = .str (py "0.0.0.0") ∨ bindIp = .str (py "::") ∨ bindIp = .str (py "") then do
    let anyInterface ← item (py "allow_any_interface") data
    if anyInterface.truthy then pure ()
    else
      throw (.exit (py "Refusing wildcard bind. Set listener_ip to your Tailscale/WireGuard IP."))
  else pure ()

/-- Wherever `start` goes on with this address for one interface, it is not unspecified. -/
def NeverWildcard (ip : PyStr) : Prop :=
  ∀ data, lookup (py "listener_ip") data = some (.str ip) →
    lookup (py "allow_any_interface") data = some (.bool false) → startCheck data = .ok () →
      ∀ address, ipAddress ip = some address → address.isUnspecified = false

/-- A text with zeros only is one of those that `start` knows. -/
def KnownZeros (ip : PyStr) : Prop :=
  OnlyZeros ip → ip = py "0.0.0.0" ∨ ip = py "::" ∨ ip = py ""

instance (ip : PyStr) : Decidable (KnownZeros ip) :=
  inferInstanceAs (Decidable (OnlyZeros ip → _ ∨ _ ∨ _))

theorem ipAddressRaises_eq_none {ip : PyStr} :
    ipAddressRaises ip = none ↔ (ipAddress ip).isSome = true := by
  unfold ipAddressRaises
  split
  next parses => exact iff_of_true rfl parses
  next fails => exact iff_of_false (by simp) fails

theorem startCheck_eq_ok {data : Dict} {ip : PyStr}
    (listens : lookup (py "listener_ip") data = some (.str ip))
    (oneInterface : lookup (py "allow_any_interface") data = some (.bool false)) :
    startCheck data = .ok () ↔ ¬ (ip = py "0.0.0.0" ∨ ip = py "::" ∨ ip = py "") := by
  have listener : item (py "listener_ip") data = .ok (.str ip) := by rw [item, listens]
  have interfaces : item (py "allow_any_interface") data = .ok (.bool false) := by
    rw [item, oneInterface]
  rw [startCheck, listener]
  change (if _ then _ else _) = _ ↔ _
  simp only [Json.str.injEq]
  split
  next known =>
    rw [interfaces]
    exact iff_of_false (by rintro ⟨⟩) (not_not.mpr known)
  next unknown => exact iff_of_true rfl unknown

/-- What both checks come to for a text that is an address. -/
theorem neverWildcard_iff_knownZeros {ip : PyStr}
    (checked : ip = [] ∨ (ipAddress ip).isSome = true) : NeverWildcard ip ↔ KnownZeros ip := by
  constructor
  · intro never zeros
    apply by_contra
    intro unknown
    obtain empty | parses := checked
    · exact unknown (.inr (.inr empty))
    · obtain ⟨address, parsed⟩ := Option.isSome_iff_exists.mp parses
      let data : Dict := [(py "listener_ip", .str ip), (py "allow_any_interface", .bool false)]
      have listens : lookup (py "listener_ip") data = some (.str ip) := rfl
      have oneInterface : lookup (py "allow_any_interface") data = some (.bool false) := rfl
      have starts : startCheck data = .ok () :=
        (startCheck_eq_ok listens oneInterface).mpr unknown
      have specified := never data listens oneInterface starts address parsed
      rw [(isUnspecified_iff parsed).mpr zeros] at specified
      contradiction
  · intro known data listens oneInterface starts address parsed
    rw [startCheck_eq_ok listens oneInterface] at starts
    apply Bool.eq_false_of_not_eq_true
    intro unspecified
    exact starts (known ((isUnspecified_iff parsed).mp unspecified))

variable {Key : Type}

/-- The platform with `ipaddress` as it is. -/
def Platform.withIpAddress (platform : Platform Key) : Platform Key :=
  { platform with ipAddress := ipAddressRaises }

theorem ipAddress_of_initData {platform : Platform Key} {arguments : InitArguments}
    {prepare : Option PyExc} {setup : Except PyExc Setup} {file : Option Bytes} {data : Dict}
    (accepted : initData platform.withIpAddress arguments prepare setup file = .ok data) :
    (ipAddress arguments.ip).isSome = true := by
  unfold initData at accepted
  obtain ⟨_, checked, _⟩ := bind_eq_ok.mp accepted
  unfold InitArguments.check at checked
  split at checked
  · contradiction
  · split at checked
    · contradiction
    · obtain ⟨_, parses, _⟩ := bind_eq_ok.mp checked
      exact ipAddressRaises_eq_none.mp (attempt_eq_ok.mp parses)

theorem ipAddress_of_renewServer {ip : Option PyStr} {loadKey : Option PyExc}
    {otherwise : Json → Json → Option PyExc} {data after : Dict}
    (renewed : renewServer ip loadKey
      (fun target ip => (sanRaises ip).or (otherwise target ip)) data = .ok after)
    {text : PyStr} (stored : lookup (py "listener_ip") after = some (.str text)) :
    text = [] ∨ (ipAddress text).isSome = true := by
  unfold renewServer at renewed
  obtain ⟨_, _, renewed⟩ := bind_eq_ok.mp renewed
  obtain ⟨newIp, _, renewed⟩ := bind_eq_ok.mp renewed
  obtain ⟨target, _, renewed⟩ := bind_eq_ok.mp renewed
  obtain ⟨_, issued, renewed⟩ := bind_eq_ok.mp renewed
  obtain rfl := Except.ok.inj renewed
  rw [lookup_assign_self, Option.some.injEq] at stored
  subst stored
  rw [attempt_eq_ok, Option.or_eq_none_iff, sanRaises, sanAddress] at issued
  by_cases empty : text = []
  · exact .inl empty
  · rw [if_neg empty] at issued
    cases parsed : ipAddress text with
    | some address => exact .inr rfl
    | none =>
        rw [parsed] at issued
        exact absurd issued.1 (by simp)

/-- An address that `init` has accepted or `renew_server` has stored never leads to a wildcard
exactly if it has a digit other than zero, or is one of the texts that `start` knows. -/
theorem neverWildcard_iff (platform : Platform Key) :
    (∀ arguments prepare setup file data,
      initData platform.withIpAddress arguments prepare setup file = .ok data →
        (NeverWildcard arguments.ip ↔ KnownZeros arguments.ip)) ∧
    (∀ ip loadKey (otherwise : Json → Json → Option PyExc) data after,
      renewServer ip loadKey
          (fun target ip => (sanRaises ip).or (otherwise target ip)) data = .ok after →
        ∀ text, lookup (py "listener_ip") after = some (.str text) →
          (NeverWildcard text ↔ KnownZeros text)) := by
  constructor
  · intro arguments prepare setup file data accepted
    exact neverWildcard_iff_knownZeros (.inr (ipAddress_of_initData accepted))
  · intro ip loadKey otherwise data after renewed text stored
    exact neverWildcard_iff_knownZeros (ipAddress_of_renewServer renewed stored)

/-- A setup that listens at this address. -/
def listeningAt (ip : String) : InitArguments :=
  ⟨py ip, 8765, py "laptop", py "user", py "correct horse", false⟩

theorem initData_listeningAt :
    (initData samplePlatform.withIpAddress (listeningAt "100.64.0.1") none (.ok ⟨[], []⟩)
        none = .ok (initialData (listeningAt "100.64.0.1") ⟨[], []⟩)) ∧
      initData samplePlatform.withIpAddress (listeningAt "0:0:0:0:0:0:0:0") none (.ok ⟨[], []⟩)
        none = .ok (initialData (listeningAt "0:0:0:0:0:0:0:0") ⟨[], []⟩) :=
  ⟨rfl, rfl⟩

theorem neverWildcard_iff_tailscale :
    NeverWildcard (py "100.64.0.1") ∧ NeverWildcard (py "100.64.0.2") := by
  have specific : KnownZeros (py "100.64.0.1") ∧ KnownZeros (py "100.64.0.2") := by
    decide
  have both := neverWildcard_iff samplePlatform
  constructor
  · exact (both.1 _ _ _ _ _ initData_listeningAt.1).mpr specific.1
  · have renewed : renewServer (some (py "100.64.0.2")) none
        (fun _ ip => (sanRaises ip).or none) [(py "target_id", .str (py "laptop"))] =
          .ok [(py "target_id", .str (py "laptop")), (py "listener_ip", .str (py "100.64.0.2"))] :=
      rfl
    have stored : lookup (py "listener_ip")
        [(py "target_id", Json.str (py "laptop")),
          (py "listener_ip", .str (py "100.64.0.2"))] = some (.str (py "100.64.0.2")) := rfl
    exact (both.2 _ _ (fun _ _ => none) _ _ renewed _ stored).mpr specific.2

/-- Eight groups of zeros are accepted and bound to. -/
theorem not_neverWildcard_eightZeros :
    initData samplePlatform.withIpAddress (listeningAt "0:0:0:0:0:0:0:0") none (.ok ⟨[], []⟩)
        none = .ok (initialData (listeningAt "0:0:0:0:0:0:0:0") ⟨[], []⟩) ∧
      ¬ NeverWildcard (py "0:0:0:0:0:0:0:0") := by
  have parsed : ipAddress (py "0:0:0:0:0:0:0:0") = some (.v6 0 none) := by decide
  refine ⟨initData_listeningAt.2, ?_⟩
  rw [neverWildcard_iff_knownZeros (.inr (by rw [parsed]; rfl))]
  decide

end RemoteUnlock.Pair
