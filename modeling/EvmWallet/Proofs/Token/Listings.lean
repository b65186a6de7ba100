import EvmWallet.Proofs.Json.Acceptance
import EvmWallet.Proofs.Json.Documents
import EvmWallet.Proofs.Json.Records
import EvmWallet.Proofs.Text.Numerals
import EvmWallet.Token.Listing

/-!
# What a listing names

`Lists body tokens` says that a text is a listing of these tokens: what its entries offer, however
they are written (`Offers`), and which of the offers come to a token (`Yields`). A listing is read as
the tokens that it lists, and every other text is an error: `listing_read`. Decimals may be stated in
a few ways (`Stated`), and an entry that states them in another one spoils the whole listing, whatever
the rest of it names: `listing_of_offers`.
-/

namespace EvmWallet.Token

open Json (Value Spelled Record)

/-! ## Decimals -/

/-- The ways to state decimals, whether they come to a number or not. -/
inductive Stated : Option Value → Prop where
  | missing : Stated none
  | null : Stated (some .null)
  | number (n : UInt32) : Stated (some (.nat n.toNat))
  | text (s : String) : Stated (some (.text s))

/-- The number that stated decimals come to; it is zero if nothing is stated. -/
inductive ComesTo : Option Value → UInt32 → Prop where
  | missing : ComesTo none 0
  | null : ComesTo (some .null) 0
  | number (n : UInt32) : ComesTo (some (.nat n.toNat)) n
  | text {s : String} {n : UInt32} : Text.SpellsNatural n.toNat s.toList → ComesTo (some (.text s)) n

section Decimals

variable {field : Option Value} {n : UInt32}

/-- Decimals are texts and numbers of 32 bits. -/
theorem decimals_eq_some_iff {v : Value} {d : Decimals} : Decimals.ofJson? v = some d ↔
    (∃ s, v = .text s ∧ d = .text s) ∨ ∃ n : UInt32, v = .nat n.toNat ∧ d = .number n := by
  constructor
  · intro read
    unfold Decimals.ofJson? at read
    split at read
    · obtain ⟨s, rfl, rfl⟩ := Option.map_eq_some_iff.mp read
      exact .inl ⟨s, rfl, rfl⟩
    · obtain ⟨k, below, rfl⟩ := Option.map_eq_some_iff.mp read
      obtain ⟨small, rfl⟩ := Json.natBelow?_eq_some_iff.mp below
      refine .inr ⟨UInt32.ofNat k, ?_, rfl⟩
      rw [UInt32.toNat_ofNat_of_lt' small]
  · rintro (⟨s, rfl, rfl⟩ | ⟨n, rfl, rfl⟩)
    · rfl
    · have below := Json.natBelow?_eq_some_iff.mpr ⟨n.toNat_lt, rfl⟩
      exact Option.map_eq_some_iff.mpr ⟨n.toNat, below, by rw [UInt32.ofNat_toNat]⟩

theorem value?_text_eq_some_iff {s : String} :
    (Decimals.text s).value? = some n ↔ Text.SpellsNatural n.toNat s.toList := by
  show (Text.ofDigitsBelow? UInt32.size (Text.trimChars s.toList)).map UInt32.ofNat = some n ↔ _
  constructor
  · intro read
    obtain ⟨k, below, rfl⟩ := Option.map_eq_some_iff.mp read
    obtain ⟨small, spelled⟩ := Text.ofDigitsBelow?_trimChars_eq_some_iff.mp below
    rwa [UInt32.toNat_ofNat_of_lt' small]
  · intro spelled
    have below := Text.ofDigitsBelow?_trimChars_eq_some_iff.mpr ⟨n.toNat_lt, spelled⟩
    exact Option.map_eq_some_iff.mpr ⟨n.toNat, below, UInt32.ofNat_toNat⟩

theorem stated_iff : Stated field ↔ ∃ d, Json.optional Decimals.ofJson? field = some d := by
  constructor
  · rintro (_ | _ | n | s)
    · exact ⟨none, rfl⟩
    · exact ⟨none, rfl⟩
    · have number := decimals_eq_some_iff.mpr (.inr ⟨n, rfl, rfl⟩)
      exact ⟨_, Json.optional_eq_some_iff.mpr (.inr ⟨_, _, rfl, by simp, number, rfl⟩)⟩
    · exact ⟨some (.text s), rfl⟩
  · rintro ⟨d, read⟩
    rcases Json.optional_eq_some_iff.mp read with ⟨rfl | rfl, -⟩ | ⟨v, d, rfl, -, given, -⟩
    · exact .missing
    · exact .null
    · rcases decimals_eq_some_iff.mp given with ⟨s, rfl, -⟩ | ⟨n, rfl, -⟩
      · exact .text s
      · exact .number n

/-- Decimals come to the number that is read of them. -/
theorem comesTo_iff : ComesTo field n ↔
    ∃ d, Json.optional Decimals.ofJson? field = some d ∧ d.elim (some 0) Decimals.value? = some n := by
  constructor
  · rintro (_ | _ | n | spelled)
    · exact ⟨none, rfl, rfl⟩
    · exact ⟨none, rfl, rfl⟩
    · have number := decimals_eq_some_iff.mpr (.inr ⟨n, rfl, rfl⟩)
      exact ⟨_, Json.optional_eq_some_iff.mpr (.inr ⟨_, _, rfl, by simp, number, rfl⟩), rfl⟩
    · exact ⟨_, rfl, value?_text_eq_some_iff.mpr spelled⟩
  · rintro ⟨d, read, value⟩
    rcases Json.optional_eq_some_iff.mp read with ⟨rfl | rfl, rfl⟩ | ⟨v, d, rfl, -, given, rfl⟩
    · exact Option.some.inj value ▸ .missing
    · exact Option.some.inj value ▸ .null
    · rcases decimals_eq_some_iff.mp given with ⟨s, rfl, rfl⟩ | ⟨m, rfl, rfl⟩
      · exact .text (value?_text_eq_some_iff.mp value)
      · exact Option.some.inj value ▸ .number m

end Decimals

/-! ## Entries -/

/-- What an entry offers: a token of which only the decimals have to be worked out. -/
structure Offer where
  address : String
  name : String
  symbol : String
  decimals : Option Value

/-- The token that is offered, with these decimals. -/
def Offer.token (o : Offer) (decimals : UInt32) : Token := ⟨o.address, o.name, o.symbol, decimals⟩

/-- A text that may be missing, which is the same as being empty. -/
inductive TextOrNone : Option Value → String → Prop where
  | missing : TextOrNone none ""
  | null : TextOrNone (some .null) ""
  | text (s : String) : TextOrNone (some (.text s)) s

/-- An entry offers what stands under its `tokenInfo`. -/
inductive Offers : Value → Offer → Prop where
  | entry {entry info : Value} {address name symbol : String}
      {nameField symbolField decimals : Option Value} :
      Record ["tokenInfo"] 1 entry [some info] →
      Record ["address", "name", "symbol", "decimals"] 4 info
        [some (.text address), nameField, symbolField, decimals] →
      TextOrNone nameField name → TextOrNone symbolField symbol →
      Offers entry ⟨address, name, symbol, decimals⟩

section Entries

variable {entry : Value} {o : Offer} {e : Entry}

theorem textOrNone_iff {field : Option Value} {s : String} :
    TextOrNone field s ↔ ∃ t, Json.optional Value.text? field = some t ∧ t.getD "" = s := by
  constructor
  · rintro (_ | _ | s)
    · exact ⟨none, rfl, rfl⟩
    · exact ⟨none, rfl, rfl⟩
    · exact ⟨some s, rfl, rfl⟩
  · rintro ⟨t, read, rfl⟩
    rcases Json.optional_eq_some_iff.mp read with ⟨rfl | rfl, rfl⟩ | ⟨v, s, rfl, -, given, rfl⟩
    · exact .missing
    · exact .null
    · exact Json.text?_eq_some_iff.mp given ▸ .text s

theorem info_eq_some_iff {v : Value} : Entry.ofInfo? v = some e ↔
    ∃ name symbol decimals, Record ["address", "name", "symbol", "decimals"] 4 v
        [some (.text e.address), name, symbol, decimals] ∧
      Json.optional Value.text? name = some e.name ∧
      Json.optional Value.text? symbol = some e.symbol ∧
      Json.optional Decimals.ofJson? decimals = some e.decimals := by
  constructor
  · intro read
    obtain ⟨values, fields, read⟩ := Option.bind_eq_some_iff.mp read
    have record := Json.fields?_eq_some_iff.mp fields
    split at read
    · rename_i address name symbol decimals
      obtain ⟨_, given, read⟩ := Option.bind_eq_some_iff.mp read
      obtain ⟨_, nameRead, read⟩ := Option.bind_eq_some_iff.mp read
      obtain ⟨_, symbolRead, read⟩ := Option.bind_eq_some_iff.mp read
      obtain ⟨_, decimalsRead, made⟩ := Option.bind_eq_some_iff.mp read
      obtain ⟨v, rfl, text⟩ := Option.bind_eq_some_iff.mp given
      obtain rfl := Json.text?_eq_some_iff.mp text
      exact Option.some.inj made ▸
        ⟨name, symbol, decimals, record, nameRead, symbolRead, decimalsRead⟩
    · exact absurd read (by simp)
  · rintro ⟨name, symbol, decimals, record, nameRead, symbolRead, decimalsRead⟩
    have fields := Json.fields?_eq_some_iff.mpr record
    unfold Entry.ofInfo? Value.record?
    rw [show ["address", "name", "symbol", "decimals"].length = 4 from rfl, fields]
    simp [Json.required, Value.text?, nameRead, symbolRead, decimalsRead]

theorem entry_eq_some_iff : Entry.ofJson? entry = some e ↔
    ∃ info, Record ["tokenInfo"] 1 entry [some info] ∧ Entry.ofInfo? info = some e := by
  constructor
  · intro read
    obtain ⟨values, fields, read⟩ := Option.bind_eq_some_iff.mp read
    have record := Json.fields?_eq_some_iff.mp fields
    split at read
    · obtain ⟨info, rfl, read⟩ := Option.bind_eq_some_iff.mp read
      exact ⟨info, record, read⟩
    · exact absurd read (by simp)
  · rintro ⟨info, record, read⟩
    have fields := Json.fields?_eq_some_iff.mpr record
    unfold Entry.ofJson? Value.record?
    rw [show ["tokenInfo"].length = 1 from rfl, fields]
    exact read

theorem token?_eq_some_iff {t : Token} : e.token? = some t ↔
    ∃ n, e.decimals.elim (some 0) Decimals.value? = some n ∧
      t = ⟨e.address, e.name.getD "", e.symbol.getD "", n⟩ := by
  have mapped : e.token? = (e.decimals.elim (some 0) Decimals.value?).map
      fun n => ⟨e.address, e.name.getD "", e.symbol.getD "", n⟩ := by
    unfold Entry.token?
    cases e.decimals with
    | none => rfl
    | some d => exact (Option.map_eq_bind).symm
  rw [mapped, Option.map_eq_some_iff]
  simp [eq_comm]

/-- An entry gives the token that it offers, if the decimals of the offer come to a number. -/
def Offer.Gives (o : Offer) (e : Entry) : Prop :=
  ∀ t, e.token? = some t ↔ ∃ n, ComesTo o.decimals n ∧ t = o.token n

/-- An entry whose offer states its decimals is read. -/
theorem Offers.read (offers : Offers entry o) (stated : Stated o.decimals) :
    ∃ e, Entry.ofJson? entry = some e ∧ o.Gives e := by
  rcases offers with ⟨record, fields, name, symbol⟩
  obtain ⟨b, nameRead, rfl⟩ := textOrNone_iff.mp name
  obtain ⟨c, symbolRead, rfl⟩ := textOrNone_iff.mp symbol
  obtain ⟨d, decimalsRead⟩ := stated_iff.mp stated
  refine ⟨⟨_, b, c, d⟩, entry_eq_some_iff.mpr ⟨_, record, info_eq_some_iff.mpr
    ⟨_, _, _, fields, nameRead, symbolRead, decimalsRead⟩⟩, fun t => ?_⟩
  simp only [token?_eq_some_iff, comesTo_iff, decimalsRead, Option.some.injEq, exists_eq_left',
    Offer.token]

/-- No other entry is read. -/
theorem exists_offer (read : Entry.ofJson? entry = some e) :
    ∃ o, Offers entry o ∧ Stated o.decimals ∧ o.Gives e := by
  obtain ⟨info, record, infoRead⟩ := entry_eq_some_iff.mp read
  obtain ⟨name, symbol, decimals, fields, nameRead, symbolRead, decimalsRead⟩ :=
    info_eq_some_iff.mp infoRead
  have offers : Offers entry ⟨e.address, e.name.getD "", e.symbol.getD "", decimals⟩ :=
    .entry record fields (textOrNone_iff.mpr ⟨_, nameRead, rfl⟩)
      (textOrNone_iff.mpr ⟨_, symbolRead, rfl⟩)
  have stated : Stated decimals := stated_iff.mpr ⟨_, decimalsRead⟩
  obtain ⟨e', again, gives⟩ := offers.read stated
  exact ⟨_, offers, stated, Option.some.inj (again.symm.trans read) ▸ gives⟩

theorem Offer.Gives.none_iff (gives : o.Gives e) :
    e.token? = none ↔ ∀ n, ¬ComesTo o.decimals n := by
  rw [Option.eq_none_iff_forall_ne_some]
  constructor
  · intro none n comes
    exact none _ ((gives _).mpr ⟨n, comes, rfl⟩)
  · intro none t token
    obtain ⟨n, comes, -⟩ := (gives t).mp token
    exact none n comes

theorem TextOrNone.unique {field : Option Value} {s t : String} (h : TextOrNone field s)
    (h' : TextOrNone field t) : s = t := by
  obtain ⟨a, read, rfl⟩ := textOrNone_iff.mp h
  obtain ⟨b, again, rfl⟩ := textOrNone_iff.mp h'
  rw [Option.some.inj (read.symm.trans again)]

theorem ComesTo.stated {field : Option Value} {n : UInt32} (h : ComesTo field n) : Stated field := by
  obtain ⟨d, read, -⟩ := comesTo_iff.mp h
  exact stated_iff.mpr ⟨d, read⟩

theorem ComesTo.unique {field : Option Value} {m n : UInt32} (h : ComesTo field m)
    (h' : ComesTo field n) : m = n := by
  obtain ⟨a, read, value⟩ := comesTo_iff.mp h
  obtain ⟨b, again, value'⟩ := comesTo_iff.mp h'
  obtain rfl := Option.some.inj (read.symm.trans again)
  exact Option.some.inj (value.symm.trans value')

/-- An entry makes one offer. -/
theorem Offers.unique {o' : Offer} (h : Offers entry o) (h' : Offers entry o') : o = o' := by
  obtain ⟨record, fields, name, symbol⟩ := h
  obtain ⟨record', fields', name', symbol'⟩ := h'
  obtain ⟨rfl⟩ := record.unique record'
  obtain ⟨rfl⟩ := fields.unique fields'
  rw [name.unique name', symbol.unique symbol']

end Entries

/-! ## Listings -/

/-- The tokens that offers come to, in their order. Offers whose decimals come to no number are left
out. -/
inductive Yields : List Offer → List Token → Prop where
  | nil : Yields [] []
  | token {o : Offer} {n : UInt32} {offers : List Offer} {tokens : List Token} :
      ComesTo o.decimals n → Yields offers tokens → Yields (o :: offers) (o.token n :: tokens)
  | without {o : Offer} {offers : List Offer} {tokens : List Token} :
      (∀ n, ¬ComesTo o.decimals n) → Yields offers tokens → Yields (o :: offers) tokens

/-- The entries of a listing are those under its `tokens`, which may be missing. -/
inductive HasEntries : Value → List Value → Prop where
  | missing {v : Value} : Record ["tokens"] 0 v [none] → HasEntries v []
  | listed {v : Value} {entries : List Value} :
      Record ["tokens"] 0 v [some (.list entries)] → HasEntries v entries

/-- A text is a listing of tokens. -/
inductive Lists (body : String) (tokens : List Token) : Prop where
  | listing {v : Value} {entries : List Value} {offers : List Offer} : Spelled v body →
      HasEntries v entries → List.Forall₂ Offers entries offers → (∀ o ∈ offers, Stated o.decimals) →
      Yields offers tokens → Lists body tokens

section Listings

variable {v : Value} {entries : List Value} {offers : List Offer} {tokens : List Token}

theorem entries?_eq_some_iff {read : List Entry} : entries? v = some read ↔
    ∃ entries, HasEntries v entries ∧
      List.Forall₂ (fun entry e => Entry.ofJson? entry = some e) entries read := by
  constructor
  · intro found
    obtain ⟨values, fields, found⟩ := Option.bind_eq_some_iff.mp found
    have record := Json.fields?_eq_some_iff.mp fields
    split at found
    · exact Option.some.inj found ▸ ⟨[], .missing record, .nil⟩
    · obtain ⟨entries, rfl, each⟩ := Json.listOf?_eq_some_iff.mp found
      exact ⟨entries, .listed record, each⟩
    · exact absurd found (by simp)
  · rintro ⟨entries, record | record, each⟩
    · cases each
      unfold entries?
      rw [Json.fields?_eq_some_iff.mpr record]
      rfl
    · unfold entries?
      rw [Json.fields?_eq_some_iff.mpr record]
      exact Json.listOf?_eq_some_iff.mpr ⟨entries, rfl, each⟩

/-- Entries that are read give the tokens that their offers come to. -/
theorem exists_read_iff :
    (∃ read, List.Forall₂ (fun entry e => Entry.ofJson? entry = some e) entries read ∧
      read.filterMap Entry.token? = tokens) ↔
    ∃ offers, List.Forall₂ Offers entries offers ∧ (∀ o ∈ offers, Stated o.decimals) ∧
      Yields offers tokens := by
  induction entries generalizing tokens with
  | nil =>
    constructor
    · rintro ⟨_, ⟨⟩, rfl⟩
      exact ⟨[], .nil, by simp, .nil⟩
    · rintro ⟨_, ⟨⟩, -, ⟨⟩⟩
      exact ⟨[], .nil, rfl⟩
  | cons entry entries ih =>
    constructor
    · rintro ⟨_, each, same⟩
      obtain ⟨e, read, first, later, rfl⟩ := List.forall₂_cons_left_iff.mp each
      obtain ⟨o, offered, stated, gives⟩ := exists_offer first
      obtain ⟨offers, others, each, yields⟩ := ih.mp ⟨read, later, rfl⟩
      refine ⟨o :: offers, .cons offered others, List.forall_mem_cons.mpr ⟨stated, each⟩, ?_⟩
      cases token : e.token? with
      | none =>
        rw [List.filterMap_cons_none token] at same
        exact same ▸ .without (gives.none_iff.mp token) yields
      | some t =>
        rw [List.filterMap_cons_some token] at same
        obtain ⟨n, comes, rfl⟩ := (gives t).mp token
        exact same ▸ .token comes yields
    · rintro ⟨_, all, each, yields⟩
      obtain ⟨o, offers, offered, others, rfl⟩ := List.forall₂_cons_left_iff.mp all
      obtain ⟨stated, each⟩ := List.forall_mem_cons.mp each
      obtain ⟨e, first, gives⟩ := offered.read stated
      cases yields with
      | token comes yields =>
        obtain ⟨read, later, rfl⟩ := ih.mpr ⟨offers, others, each, yields⟩
        exact ⟨e :: read, .cons first later,
          List.filterMap_cons_some ((gives _).mpr ⟨_, comes, rfl⟩)⟩
      | without none yields =>
        obtain ⟨read, later, rfl⟩ := ih.mpr ⟨offers, others, each, yields⟩
        exact ⟨e :: read, .cons first later, List.filterMap_cons_none (gives.none_iff.mpr none)⟩

theorem ofListing_eq_ok_iff {body : String} : ofListing body = .ok tokens ↔ Lists body tokens := by
  unfold ofListing
  constructor
  · intro read
    split at read
    · rename_i es found
      obtain ⟨v, parsed, found⟩ := Option.bind_eq_some_iff.mp found
      obtain ⟨entries, has, each⟩ := entries?_eq_some_iff.mp found
      obtain ⟨offers, offered, stated, yields⟩ :=
        exists_read_iff.mp ⟨es, each, Except.ok.inj read⟩
      exact .listing (Json.parse?_eq_some_iff.mp parsed) has offered stated yields
    · exact absurd read (by simp)
  · rintro ⟨spelled, has, offered, stated, yields⟩
    obtain ⟨es, each, rfl⟩ := exists_read_iff.mpr ⟨_, offered, stated, yields⟩
    rw [Json.parse?_eq_some_iff.mpr spelled, Option.bind_some,
      entries?_eq_some_iff.mpr ⟨_, has, each⟩]

theorem ofListing_eq_error_iff {body : String} {e : Error} :
    ofListing body = .error e ↔
      (∀ tokens, ofListing body ≠ .ok tokens) ∧ e = .decode "address info" := by
  unfold ofListing
  split <;> simp [eq_comm]

theorem HasEntries.unique {others : List Value} (h : HasEntries v entries)
    (h' : HasEntries v others) : entries = others := by
  cases h with
  | missing record =>
    cases h' with
    | missing => rfl
    | listed record' => exact absurd (record.unique record') (by simp)
  | listed record =>
    cases h' with
    | missing record' => exact absurd (record.unique record') (by simp)
    | listed record' => simpa using record.unique record'

/-- Entries that make offers are a listing if all of them state their decimals. -/
theorem lists_iff {body : String} (spelled : Spelled v body) (has : HasEntries v entries)
    (offered : List.Forall₂ Offers entries offers) :
    Lists body tokens ↔ (∀ o ∈ offers, Stated o.decimals) ∧ Yields offers tokens := by
  constructor
  · rintro ⟨spelled', has', offered', stated, yields⟩
    have parsed := Json.parse?_eq_some_iff.mpr spelled
    obtain rfl := Option.some.inj (parsed.symm.trans (Json.parse?_eq_some_iff.mpr spelled'))
    obtain rfl := has.unique has'
    have one : Relator.RightUnique Offers := fun _ _ _ => Offers.unique
    obtain rfl := List.right_unique_forall₂' one offered offered'
    exact ⟨stated, yields⟩
  · rintro ⟨stated, yields⟩
    exact .listing spelled has offered stated yields

theorem Yields.unique {others : List Token} (h : Yields offers tokens) (h' : Yields offers others) :
    tokens = others := by
  induction h generalizing others with
  | nil =>
    cases h'
    rfl
  | token comes _ ih =>
    cases h' with
    | token comes' yields => rw [comes.unique comes', ih yields]
    | without none => exact absurd comes (none _)
  | without none _ ih =>
    cases h' with
    | token comes => exact absurd comes (none _)
    | without _ yields => exact ih yields

theorem exists_yields (offers : List Offer) : ∃ tokens, Yields offers tokens := by
  induction offers with
  | nil => exact ⟨[], .nil⟩
  | cons o offers ih =>
    obtain ⟨tokens, yields⟩ := ih
    by_cases comes : ∃ n, ComesTo o.decimals n
    · obtain ⟨n, comes⟩ := comes
      exact ⟨_, .token comes yields⟩
    · exact ⟨tokens, .without (not_exists.mp comes) yields⟩

end Listings

/-! ## Plain listings -/

/-- What is said of a token with these decimals, and nothing else. -/
def plainInfo (address name symbol : String) (decimals : Value) : Value :=
  .record [("address", .text address), ("name", .text name), ("symbol", .text symbol),
    ("decimals", decimals)]

/-- An entry that offers a token with these decimals, and holds nothing else. -/
def plainEntry (address name symbol : String) (decimals : Value) : Value :=
  .record [("tokenInfo", plainInfo address name symbol decimals)]

/-- The offer of a token. -/
def offer (t : Token) : Offer := ⟨t.address, t.name, t.symbol, some (.nat t.decimals.toNat)⟩

/-- An entry that offers this token. -/
def plainToken (t : Token) : Value := plainEntry t.address t.name t.symbol (.nat t.decimals.toNat)

/-- A listing of entries that holds nothing else. -/
def plainListing (entries : List Value) : Value := .record [("tokens", .list entries)]

section Plain

theorem record_named (fields : List (String × Value)) {names : List String}
    {values : List (Option Value)} (same : fields.map (·.1) = names) (distinct : names.Nodup)
    (given : fields.map (some ·.2) = values) (least : Nat) :
    Record names least (.record fields) values :=
  given ▸ Json.fields?_eq_some_iff.mp (Json.record?_record same distinct)

theorem offers_plainEntry (address name symbol : String) (decimals : Value) :
    Offers (plainEntry address name symbol decimals) ⟨address, name, symbol, some decimals⟩ := by
  have outer : Record ["tokenInfo"] 1 (plainEntry address name symbol decimals)
      [some (plainInfo address name symbol decimals)] :=
    record_named [("tokenInfo", _)] rfl (by simp) rfl 1
  have inner : Record ["address", "name", "symbol", "decimals"] 4
      (plainInfo address name symbol decimals)
      [some (.text address), some (.text name), some (.text symbol), some decimals] :=
    record_named [("address", _), ("name", _), ("symbol", _), ("decimals", _)] rfl (by simp) rfl 4
  exact .entry outer inner (.text name) (.text symbol)

theorem hasEntries_plainListing (entries : List Value) :
    HasEntries (plainListing entries) entries := by
  have record : Record ["tokens"] 0 (plainListing entries) [some (.list entries)] :=
    record_named [("tokens", _)] rfl (by simp) rfl 0
  exact .listed record

theorem printable_plainEntry (address name symbol : String) {decimals : Value}
    (h : decimals.Printable) : (plainEntry address name symbol decimals).Printable := by
  have info : (plainInfo address name symbol decimals).Printable :=
    Json.printable_record (by simp [Json.printable_text, h])
  exact Json.printable_record (by simpa using info)

theorem spelled_plainListing (entries : List Value) (h : ∀ e ∈ entries, e.Printable) :
    Spelled (plainListing entries) (plainListing entries).print := by
  have tokens : (Value.list entries).Printable := Json.printable_list h
  exact Json.spelled_print (Json.printable_record (by simpa using tokens))

theorem yields_offer (tokens : List Token) : Yields (tokens.map offer) tokens := by
  induction tokens with
  | nil => exact .nil
  | cons t tokens ih => exact .token (.number t.decimals) ih

/-- Every list of tokens has a listing. -/
theorem lists_plainListing (tokens : List Token) :
    Lists (plainListing (tokens.map plainToken)).print tokens := by
  have printable : ∀ e ∈ tokens.map plainToken, e.Printable := by
    intro e present
    obtain ⟨t, -, rfl⟩ := List.mem_map.mp present
    exact printable_plainEntry t.address t.name t.symbol (Json.printable_nat t.decimals.toNat)
  have offered : List.Forall₂ Offers (tokens.map plainToken) (tokens.map offer) := by
    rw [List.forall₂_map_left_iff, List.forall₂_map_right_iff, List.forall₂_same]
    exact fun t _ => offers_plainEntry t.address t.name t.symbol _
  have stated : ∀ o ∈ tokens.map offer, Stated o.decimals := by
    intro o present
    obtain ⟨t, -, rfl⟩ := List.mem_map.mp present
    exact .number t.decimals
  exact .listing (spelled_plainListing _ printable) (hasEntries_plainListing _) offered stated
    (yields_offer tokens)

end Plain

/-- A text is read as the tokens that it lists, and it is an error if it is not a listing. Every list
of tokens has a listing. -/
theorem listing_read :
    (∀ body, (∀ tokens, ofListing body = .ok tokens ↔ Lists body tokens) ∧
      ∀ e, ofListing body = .error e ↔ (∀ tokens, ¬Lists body tokens) ∧ e = .decode "address info") ∧
    ∀ tokens, Lists (plainListing (tokens.map plainToken)).print tokens := by
  refine ⟨fun body => ⟨fun tokens => ofListing_eq_ok_iff, fun e => ?_⟩, lists_plainListing⟩
  simp only [ofListing_eq_error_iff, ne_eq, ofListing_eq_ok_iff]

/-- Entries that make offers are read as the tokens that these come to if all of them state their
decimals in one of the known ways. Otherwise they are an error, whatever the other ones offer. -/
theorem listing_of_offers {body : String} {v : Value} {entries : List Value} {offers : List Offer}
    (spelled : Spelled v body) (has : HasEntries v entries)
    (offered : List.Forall₂ Offers entries offers) :
    ∃ tokens, (∀ others, Yields offers others ↔ others = tokens) ∧
      (ofListing body = .ok tokens ↔ ∀ o ∈ offers, Stated o.decimals) ∧
      ∀ e, ofListing body = .error e ↔
        (∃ o ∈ offers, ¬Stated o.decimals) ∧ e = .decode "address info" := by
  obtain ⟨tokens, yields⟩ := exists_yields offers
  refine ⟨tokens, fun others => ⟨fun others' => others'.unique yields, ?_⟩, ?_, fun e => ?_⟩
  · rintro rfl
    exact yields
  · rw [ofListing_eq_ok_iff, lists_iff spelled has offered]
    exact and_iff_left yields
  · rw [ofListing_eq_error_iff]
    refine and_congr_left fun _ => ?_
    simp only [ne_eq, ofListing_eq_ok_iff, lists_iff spelled has offered]
    constructor
    · intro none
      by_contra all
      push Not at all
      exact none tokens ⟨all, yields⟩
    · rintro ⟨o, offer, unstated⟩ others ⟨all, -⟩
      exact unstated (all o offer)

/-- One text that is a number and one that is none. -/
theorem listing_of_offers_eighteen :
    ofListing (plainListing [plainEntry "0xa" "Alpha" "ALP" (.text "18"),
      plainEntry "0xc" "Gamma" "BAD" (.text "eighteen")]).print =
        .ok [⟨"0xa", "Alpha", "ALP", 18⟩] := by
  have number : Text.SpellsNatural (18 : UInt32).toNat "18".toList :=
    value?_text_eq_some_iff.mp (by decide)
  have other (n : UInt32) : ¬ComesTo (some (.text "eighteen")) n := by
    intro comes
    cases comes with
    | text spelled =>
      have none : (Decimals.text "eighteen").value? = none := by decide
      exact absurd (value?_text_eq_some_iff.mpr spelled) (by simp [none])
  obtain ⟨tokens, unique, ok, -⟩ := listing_of_offers
    (spelled_plainListing _ (by simp [printable_plainEntry, Json.printable_text]))
    (hasEntries_plainListing _)
    (.cons (offers_plainEntry "0xa" "Alpha" "ALP" (.text "18"))
      (.cons (offers_plainEntry "0xc" "Gamma" "BAD" (.text "eighteen")) .nil))
  obtain rfl := (unique [⟨"0xa", "Alpha", "ALP", 18⟩]).mp
    (.token (.text number) (.without other .nil))
  refine ok.mpr fun o offer => ?_
  obtain rfl | rfl : o = _ ∨ o = _ := by simpa using offer
  · exact .text "18"
  · exact .text "eighteen"

/-- One number that is too large costs all the other tokens. -/
theorem listing_of_offers_spoilt :
    ¬∀ (body : String) (v : Value) (entries : List Value) (offers : List Offer) (tokens : List Token),
      Spelled v body → HasEntries v entries → List.Forall₂ Offers entries offers →
      Yields offers tokens → ofListing body = .ok tokens := by
  intro skipped
  have spelled := spelled_plainListing
    [plainEntry "0xa" "A" "A" (.nat 4294967296), plainEntry "0xb" "B" "B" (.nat 18)]
    (by simp [printable_plainEntry, Json.printable_nat])
  have has := hasEntries_plainListing
    [plainEntry "0xa" "A" "A" (.nat 4294967296), plainEntry "0xb" "B" "B" (.nat 18)]
  have offered := List.Forall₂.cons (offers_plainEntry "0xa" "A" "A" (.nat 4294967296))
    (.cons (offers_plainEntry "0xb" "B" "B" (.nat 18)) .nil)
  have unread : Json.optional Decimals.ofJson? (some (.nat 4294967296)) = none := rfl
  have unstated : ¬Stated (some (.nat 4294967296)) := by simp [stated_iff, unread]
  have none : ∀ n, ¬ComesTo (some (.nat 4294967296)) n := fun n comes => unstated comes.stated
  have read := skipped _ _ _ _ _ spelled has offered (.without none (.token (.number 18) .nil))
  obtain ⟨stated, -⟩ := (lists_iff spelled has offered).mp (ofListing_eq_ok_iff.mp read)
  exact unstated (stated _ List.mem_cons_self)

end EvmWallet.Token
