import EvmWallet.Proofs.Bytes.Utf8
import EvmWallet.Proofs.Json.Documents
import EvmWallet.Proofs.Settings.Networks

/-!
# Settings in documents

Settings are read back from the JSON that is made of them, part by part (`ofJson?_toJson` of
chains, networks, payment kinds and the settings themselves), and that JSON is printed as a text
that spells it (`printable_toJson`). A file with such a text gives the settings exactly if they
have a network for their default chain, and nothing of an environment gets into the text:
`settings_in_files`.
-/

namespace EvmWallet

open Json

/-! ## Chains -/

namespace Chain

theorem wordOfJson?_nat (w : UInt64) : wordOfJson? (.nat w.toNat) = some w := by
  rw [wordOfJson?, natBelow?_nat w.toNat_lt, Option.map_some, UInt64.ofNat_toNat]

theorem ofJson?_toJson (c : Chain) : ofJson? c.toJson = some c := by
  cases c with
  | custom name id =>
    have read : (Value.record [("name", .text name), ("chain_id", .nat id.toNat)]).record?
        ["name", "chain_id"] = some [some (.text name), some (.nat id.toNat)] :=
      record?_record rfl (by decide)
    show customOfJson? (.record [("name", .text name), ("chain_id", .nat id.toNat)]) = _
    unfold customOfJson?
    rw [read]
    simp [required, Value.text?, wordOfJson?_nat]
  | _ => rfl

theorem printable_toJson (c : Chain) : c.toJson.Printable := by
  cases c with
  | custom name id =>
    have content : (Value.record [("name", .text name), ("chain_id", .nat id.toNat)]).Printable :=
      printable_record (by simp [printable_text, printable_nat])
    exact printable_record (by simpa using content)
  | _ => exact printable_text _

end Chain

/-! ## Networks -/

namespace Network

theorem ofJson?_toJson (n : Network) : ofJson? n.toJson = some n := by
  have read : n.toJson.record?
      ["chain", "name", "symbol", "rpc_server_url", "chain_id", "is_main_network"] =
      some [some n.chain.toJson, some (.text n.name), some (.text n.symbol), some (.text n.rpcUrl),
        some (.nat n.chainId.toNat), some (.bool n.isMain)] :=
    record?_record rfl (by decide)
  unfold ofJson?
  rw [read]
  simp [required, Value.text?, Value.bool?, Chain.ofJson?_toJson, Chain.wordOfJson?_nat]

theorem printable_toJson (n : Network) : n.toJson.Printable :=
  printable_record (by simp [printable_text, printable_nat, printable_bool, Chain.printable_toJson])

end Network

/-! ## Explorer and payment -/

namespace ExplorerAccess

theorem ofJson?_toJson (e : ExplorerAccess) : ofJson? e.toJson = some e := by
  have read : e.toJson.record? ["base_url", "api_key"] =
      some [some (.text e.baseUrl), some (.text e.apiKey)] := record?_record rfl (by decide)
  unfold ofJson?
  rw [read]
  simp [required, Value.text?]

theorem printable_toJson (e : ExplorerAccess) : e.toJson.Printable :=
  printable_record (by simp [printable_text])

end ExplorerAccess

namespace Payment.Kind

theorem ofJson?_toJson (k : Kind) : ofJson? k.toJson = some k := by
  cases k <;> rfl

theorem printable_toJson (k : Kind) : k.toJson.Printable := by
  cases k with
  | other id => exact printable_record (by simp [printable_text])
  | _ => exact printable_text _

end Payment.Kind

namespace PaymentPreference

theorem ofJson?_toJson (p : PaymentPreference) : ofJson? p.toJson = some p := by
  have read : p.toJson.record? ["default_payment_type"] = some [some p.defaultKind.toJson] :=
    record?_record rfl (by decide)
  unfold ofJson?
  rw [read]
  simp [required, Payment.Kind.ofJson?_toJson]

theorem printable_toJson (p : PaymentPreference) : p.toJson.Printable :=
  printable_record (by simp [Payment.Kind.printable_toJson])

end PaymentPreference

/-! ## Settings -/

namespace Settings

theorem ofJson?_toJson (s : Settings) : ofJson? s.toJson = some s := by
  have read : s.toJson.record? ["networks", "default_network", "token_explorer", "payment"] =
      some [some (.list (s.networks.map Network.toJson)), some s.defaultChain.toJson,
        some s.explorer.toJson, some s.payment.toJson] :=
    record?_record rfl (by decide)
  unfold ofJson?
  rw [read]
  simp [required, listOf?_map Network.ofJson?_toJson, Chain.ofJson?_toJson,
    ExplorerAccess.ofJson?_toJson, PaymentPreference.ofJson?_toJson]

theorem printable_toJson (s : Settings) : s.toJson.Printable := by
  have networks : (Value.list (s.networks.map Network.toJson)).Printable := by
    refine printable_list fun v h => ?_
    obtain ⟨n, -, rfl⟩ := List.mem_map.mp h
    exact n.printable_toJson
  exact printable_record (by simp [networks, Chain.printable_toJson,
    ExplorerAccess.printable_toJson, PaymentPreference.printable_toJson])

end Settings

/-! ## Files -/

namespace Profile

theorem spelled_document (p : Profile) : Spelled p.settings.toJson p.document :=
  spelled_print p.settings.printable_toJson

/-- The environment does not enter a document, whatever the settings are changed to. -/
theorem document_updates (p : Profile) (environment : Environment)
    (updates : List (Settings → Settings)) :
    (updates.foldl update ⟨p.settings, environment⟩).document =
      (updates.foldl update p).document := by
  induction updates generalizing p with
  | nil => rfl
  | cons f updates ih => exact ih (p.update f)

/-- Settings that are spelled are read as they are, and make a profile that has its default
network. -/
theorem ofFile_spelled {s : Settings} {text : String} (h : Spelled s.toJson text) (path : String)
    (process : Environment) :
    ofFile path (some (Bytes.utf8 text)) process =
      (inProcess s process).defaultNetwork.map fun _ => inProcess s process := by
  have read : (Json.parse? text).bind Settings.ofJson? = some s := by
    rw [parse?_of_spelled h, Option.bind_some, Settings.ofJson?_toJson]
  rw [ofFile, Option.bind_some, Bytes.decodeUtf8?_utf8]
  show (readSettings text).map _ = _
  rw [readSettings, read]
  cases found : s.network? s.defaultChain with
  | none =>
    have missing : (inProcess s process).defaultNetwork = .error (.networkMissing s.defaultChain) :=
      defaultNetwork_eq_error_iff.mpr ⟨Network.find?_eq_none_iff.mp found, rfl⟩
    rw [missing]
    simp only [found]
    rfl
  | some n =>
    have first : (inProcess s process).network? s.defaultChain = some (redirected _ n) :=
      network?_eq_some_iff.mpr ⟨n, Network.find?_eq_some_iff.mp found, rfl⟩
    rw [defaultNetwork_eq_ok_iff.mpr first]
    simp only [found]
    rfl

/-- Whatever a file holds, a profile is made of it only with a network for the default chain. -/
theorem default_of_ofFile {path : String} {content : Option (List UInt8)} {process : Environment}
    {q : Profile} (h : ofFile path content process = .ok q) :
    ∃ n, q.settings.network? q.settings.defaultChain = some n := by
  unfold ofFile at h
  split at h
  · exact absurd h (by simp)
  · rename_i document _
    unfold readSettings at h
    split at h
    · exact absurd h (by simp [Except.map])
    · split at h
      · rename_i n found
        have made : inProcess _ process = q := Except.ok.inj h
        exact ⟨n, made ▸ found⟩
      · exact absurd h (by simp [Except.map])

/-- Settings in a file, whoever wrote them and in whatever environment: each text that spells them
gives them back if they have a network for their default chain, and otherwise that chain is
reported as missing. The document of a profile is such a text, and it is the same in every
environment, also after changes of the settings. A profile that was made of a file has its default
network, which is the first one of that chain with the server that the environment names. -/
theorem settings_in_files (p : Profile) (path : String) (process : Environment) :
    Spelled p.settings.toJson p.document ∧
    (∀ (environment : Environment) (updates : List (Settings → Settings)),
      (updates.foldl update ⟨p.settings, environment⟩).document =
        (updates.foldl update p).document) ∧
    (∀ text, Spelled p.settings.toJson text →
      (∀ q, ofFile path (some (Bytes.utf8 text)) process = .ok q ↔
        (∃ n ∈ p.settings.networks, n.chain = p.settings.defaultChain) ∧
          q = inProcess p.settings process) ∧
      (∀ e, ofFile path (some (Bytes.utf8 text)) process = .error e ↔
        (∀ n ∈ p.settings.networks, n.chain ≠ p.settings.defaultChain) ∧
          e = .networkMissing p.settings.defaultChain)) ∧
    (∀ content q, ofFile path content process = .ok q →
      ∃ n, Network.First q.settings.networks q.settings.defaultChain n ∧
        q.defaultNetwork = .ok (redirected q.environment n)) := by
  refine ⟨p.spelled_document, p.document_updates, fun text spelled => ?_, fun content q made => ?_⟩
  · rw [ofFile_spelled spelled path process]
    exact ⟨fun q => map_const_eq_ok_iff.trans (and_congr defaultNetwork_ok_iff Iff.rfl),
      fun e => map_eq_error_iff.trans defaultNetwork_eq_error_iff⟩
  · obtain ⟨n, found⟩ := default_of_ofFile made
    refine ⟨n, Network.find?_eq_some_iff.mp found, defaultNetwork_eq_ok_iff.mpr ?_⟩
    rw [network?_eq, found, Option.map_some]

/-- A chain with a name that needs escapes, configured twice and written where its network is
redirected: the settings come back, and with another default chain they are refused. -/
theorem settings_in_files_escapes :
    let anvil : Chain := .custom "\"an\\vil\"\n\x01é𝄞" 18446744073709551615
    let home : Network := .ofChain anvil "ETH" "http://localhost:8545"
    let s : Settings := { Settings.standard with networks := [home, home], defaultChain := anvil }
    let p : Profile := ⟨s, [(redirection anvil, "http://elsewhere")]⟩
    let q : Profile := ⟨{ s with defaultChain := .kovan }, []⟩
    ofFile "wallet.json" (some (Bytes.utf8 p.document)) [] = .ok ⟨s, []⟩ ∧
      ofFile "wallet.json" (some (Bytes.utf8 q.document)) [] = .error (.networkMissing .kovan) := by
  intro anvil home s p q
  obtain ⟨spelled, -, files, -⟩ := settings_in_files p "wallet.json" []
  obtain ⟨spelled', -, files', -⟩ := settings_in_files q "wallet.json" []
  refine ⟨((files _ spelled).1 _).mpr ⟨⟨home, List.mem_cons_self, rfl⟩, rfl⟩,
    ((files' _ spelled').2 _).mpr ⟨fun n h => ?_, rfl⟩⟩
  have only : n = home := by simpa [q, s] using h
  rw [only]
  exact Chain.noConfusion

end Profile

end EvmWallet
