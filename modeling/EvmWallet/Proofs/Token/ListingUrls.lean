import EvmWallet.Proofs.Url.Folders
import EvmWallet.Token.Explorer

/-!
# Where the listing of a wallet is asked for

The text of a wallet is put behind the folder of an explorer as it is. `AsksFor` says what the URL should
be: the listings below the base, with the text as the one segment behind them, and the explorer's key
alone in the query. `listing_requested` tells for which texts it is that: the plain segments, among them
all texts of letters and digits. The server is the base's and the key comes last in the query in any case.
-/

namespace EvmWallet.Token.Explorer

open Url (Style PlainSegment)

/-- A URL asks the explorer at a base, with a key, for the wallet that a text names. -/
structure AsksFor (base : Url) (apiKey wallet : String) (u : Url) : Prop where
  scheme : u.scheme = base.scheme
  server : u.authority = base.authority
  /-- One segment, which stands for the trimmed text, behind the folder of listings. -/
  path : ∃ segment, '/' ∉ segment ∧
    u.pathText = Url.slashed base.pathText ++ "getAddressInfo/".toList ++ segment ∧
    Url.Decodes segment (Bytes.utf8Chars (Text.trimChars wallet.toList))
  fragment : u.fragment = none
  query : ∃ q, u.query = some q ∧ Url.formPairs q = [("apiKey", apiKey)]

/-! ## The path -/

section Path

variable {e : Explorer} {port : Nat} {folder : List (List Char)} {wallet : String}

theorem letters_listings : ∀ c ∈ "getAddressInfo".toList, Url.isAlphanumeric c = true :=
  List.all_eq_true.mp (by decide +kernel)

theorem encoded_listings :
    Url.percentEncode Url.inPath "getAddressInfo".toList = "getAddressInfo".toList := by
  decide

theorem listingUrl_of_descend {u : Url} (descended : e.folder.descend
      ("getAddressInfo".toList ++ '/' :: Text.trimChars wallet.toList) = .ok u) :
    e.listingUrl wallet = .ok (u.addPair "apiKey" e.apiKey) := by
  have listings : "getAddressInfo/".toList = "getAddressInfo".toList ++ ['/'] := by decide +kernel
  rw [listingUrl, listings, List.append_assoc, List.singleton_append, descended]

/-- Whatever the text is, the server is the folder's, the key is the last pair, and the last segment
stands for a plain segment and for no other text. -/
theorem listingUrl_web (web : Style.ofScheme e.folder.scheme = .web port)
    (rooted : e.folder.path = .rooted (folder ++ [[]])) (wallet : String) :
    ∃ u front last, e.listingUrl wallet = .ok u ∧ u.scheme = e.folder.scheme ∧
      u.authority = e.folder.authority ∧ u.path = .rooted (front ++ [last]) ∧ '/' ∉ last ∧
      (Url.Decodes last (Bytes.utf8Chars (Text.trimChars wallet.toList)) ↔
        PlainSegment (Text.trimChars wallet.toList)) ∧
      ∃ q before, u.query = some q ∧ Url.formPairs q = before ++ [("apiKey", e.apiKey)] := by
  have descended := Url.descend_web web rooted letters_listings (Text.trimChars wallet.toList)
  obtain ⟨front, path⟩ := Url.run_lastPiece port
    ⟨(folder ++ [[]]).dropLast ++ [Url.percentEncode Url.inPath "getAddressInfo".toList], false⟩
    (Text.trimChars wallet.toList)
  exact ⟨_, front, _, listingUrl_of_descend descended, rfl, rfl, congrArg Url.Path.rooted path,
    Url.slash_not_mem_lastSegment port _, Url.decodes_lastSegment_iff, Url.formPairs_addPair _ _ _⟩

theorem listingUrl_plain (web : Style.ofScheme e.folder.scheme = .web port)
    (rooted : e.folder.path = .rooted (folder ++ [[]]))
    (plain : PlainSegment (Text.trimChars wallet.toList)) :
    e.listingUrl wallet = .ok { e.folder with
      path := .rooted (folder ++ ["getAddressInfo".toList,
        Url.percentEncode Url.inPath (Text.trimChars wallet.toList)])
      query := some (Url.formPair "apiKey" e.apiKey)
      fragment := none } := by
  have descended := Url.descend_plain web rooted letters_listings plain
  rw [List.dropLast_concat, encoded_listings] at descended
  exact listingUrl_of_descend descended

end Path

/-! ## What is asked for -/

section Asked

theorem ofUrl_of_ofString {baseUrl : String} {base : Url} (read : Url.ofString baseUrl = .ok base)
    (apiKey : String) : ofUrl baseUrl apiKey = .ok ⟨base.asFolder, apiKey⟩ := by
  rw [ofUrl, read]

variable {apiKey wallet : String} {base u : Url} {folder front : List (List Char)} {last : List Char}

/-- The text behind the folder of listings is that of the last segment. -/
theorem AsksFor.decodes (h : AsksFor base apiKey wallet u)
    (below : Url.slashed base.pathText = Url.segmentChars folder ++ ['/'])
    (path : u.path = .rooted (front ++ [last])) (single : '/' ∉ last) :
    Url.Decodes last (Bytes.utf8Chars (Text.trimChars wallet.toList)) := by
  obtain ⟨segment, single', written, stands⟩ := h.path
  have text : u.pathText = Url.segmentChars front ++ '/' :: last := by
    rw [Url.pathText_rooted path, Url.segmentChars_append]
    exact congrArg (Url.segmentChars front ++ ·) (List.append_nil _)
  have text' : u.pathText =
      (Url.segmentChars folder ++ '/' :: "getAddressInfo".toList) ++ '/' :: segment := by
    rw [written, below]
    simp
  rwa [Url.last_of_path single single' (text.symm.trans text')]

theorem asksFor_of_plain (below : Url.slashed base.pathText = Url.segmentChars folder ++ ['/'])
    (plain : PlainSegment (Text.trimChars wallet.toList)) (apiKey : String) :
    AsksFor base apiKey wallet { base with
      path := .rooted (folder ++ ["getAddressInfo".toList,
        Url.percentEncode Url.inPath (Text.trimChars wallet.toList)])
      query := some (Url.formPair "apiKey" apiKey)
      fragment := none } := by
  refine ⟨rfl, rfl, ⟨Url.percentEncode Url.inPath (Text.trimChars wallet.toList), ?_, ?_, ?_⟩, rfl,
    _, rfl, Url.formPairs_formPair _ _⟩
  · exact Url.slash_not_mem_percentEncode fun present => absurd (plain.inert _ present) (by decide)
  · rw [Url.pathText_rooted rfl, Url.segmentChars_append, below]
    simp [Url.segmentChars]
  · exact (Url.decodes_utf8Chars_iff.mpr plain.unescaped).encode Url.keepsEscapes_inPath

theorem ofScheme_web (web : base.scheme = "http".toList ∨ base.scheme = "https".toList) :
    ∃ port, Style.ofScheme base.scheme = .web port := by
  rcases web with http | https
  · exact ⟨80, http ▸ rfl⟩
  · exact ⟨443, https ▸ rfl⟩

/-- Letters and digits are left as they are by trimming. -/
theorem plain_trimmed (h : ∀ c ∈ wallet.toList, Url.isAlphanumeric c = true) :
    PlainSegment (Text.trimChars wallet.toList) := by
  have visible : ∀ c ∈ wallet.toList, Text.isBlank c = false := fun c present => by
    obtain ⟨low, high⟩ := Url.bounds_of_isAlphanumeric (h c present)
    exact Text.isBlank_of_visible (by omega) (by omega)
  rw [Text.trimChars_eq_self (fun c first => visible c (List.mem_of_head? first))
    fun c last => visible c (List.mem_of_getLast? last)]
  exact Url.plainSegment_of_alphanumeric h

/-- The wallet of a text is asked for exactly if the trimmed text is a plain segment, as every text of
letters and digits is. Every other text has a URL too, at the base's server and with the key as the last
pair of its query. -/
theorem listing_requested (baseUrl apiKey wallet : String) {base : Url}
    (read : Url.ofString baseUrl = .ok base)
    (web : base.scheme = "http".toList ∨ base.scheme = "https".toList) :
    ∃ e u, ofUrl baseUrl apiKey = .ok e ∧ e.listingUrl wallet = .ok u ∧
      u.scheme = base.scheme ∧ u.authority = base.authority ∧
      (∃ q before, u.query = some q ∧ Url.formPairs q = before ++ [("apiKey", apiKey)]) ∧
      (AsksFor base apiKey wallet u ↔ PlainSegment (Text.trimChars wallet.toList)) ∧
      ((∀ c ∈ wallet.toList, Url.isAlphanumeric c = true) → AsksFor base apiKey wallet u) := by
  obtain ⟨port, special⟩ := ofScheme_web web
  obtain ⟨segments, rooted, free⟩ := Url.rooted_of_web read special
  obtain ⟨folder, isFolder, below⟩ := Url.asFolder_rooted rooted free
  let e : Explorer := ⟨{ base with path := .rooted (folder ++ [[]]) }, apiKey⟩
  have opened : ofUrl baseUrl apiKey = .ok e := by
    rw [ofUrl_of_ofString read, isFolder]
  obtain ⟨u, front, last, made, scheme, server, path, single, stands, keyed⟩ :=
    listingUrl_web (e := e) special rfl wallet
  have asked (plain : PlainSegment (Text.trimChars wallet.toList)) : AsksFor base apiKey wallet u := by
    obtain rfl := Except.ok.inj (made.symm.trans (listingUrl_plain (e := e) special rfl plain))
    exact asksFor_of_plain below plain apiKey
  exact ⟨e, u, opened, made, scheme, server, keyed,
    ⟨fun asks => stands.mp (asks.decodes below path single), asked⟩,
    fun alphanumeric => asked (plain_trimmed alphanumeric)⟩

/-- The base of an explorer with a port, a folder, a query and a fragment. -/
def portedBase : Url :=
  ⟨"http".toList, some ⟨[], [], .name "api.io".toList, some 8080⟩,
    .rooted ["v1".toList], some "x=1".toList, some "top".toList⟩

/-- A blank, a letter beyond ASCII and a percent sign are encoded or stay, and nothing of the base but its
server and folder is left. -/
theorem listing_requested_accented :
    Url.ofString "HTTP://Api.io:8080/v1?x=1#top" = .ok portedBase ∧
      portedBase.scheme = "http".toList ∧
      ∃ e u, ofUrl "HTTP://Api.io:8080/v1?x=1#top" "key & more" = .ok e ∧
        e.listingUrl " 0xabc é% " = .ok u ∧ u.scheme = portedBase.scheme ∧
        u.authority = portedBase.authority ∧ AsksFor portedBase "key & more" " 0xabc é% " u ∧
        toString u = "http://api.io:8080/v1/getAddressInfo/0xabc%20%C3%A9%?apiKey=key+%26+more" := by
  have read : Url.ofString "HTTP://Api.io:8080/v1?x=1#top" = .ok portedBase := by
    decide +kernel
  have plain : PlainSegment (Text.trimChars " 0xabc é% ".toList) := by decide +kernel
  obtain ⟨e, u, made, asked, scheme, server, -, asks, -⟩ :=
    listing_requested "HTTP://Api.io:8080/v1?x=1#top" "key & more" " 0xabc é% " read (.inl rfl)
  refine ⟨read, rfl, e, u, made, asked, scheme, server, asks.mpr plain, ?_⟩
  have written : (listingUrl ⟨portedBase.asFolder, "key & more"⟩ " 0xabc é% ").map toString = .ok
      "http://api.io:8080/v1/getAddressInfo/0xabc%20%C3%A9%?apiKey=key+%26+more" := by
    decide +kernel
  obtain rfl : ⟨portedBase.asFolder, "key & more"⟩ = e :=
    Except.ok.inj ((ofUrl_of_ofString read _).symm.trans made)
  rw [asked] at written
  exact Except.ok.inj written

/-- The base of an explorer without anything behind its server. -/
def bareBase : Url :=
  ⟨"http".toList, some ⟨[], [], .name "explorer.local".toList, none⟩, .rooted [[]], none, none⟩

/-- A text with dots, a slash and a question mark asks for something else on the server, with a key of its
own in front of the explorer's. -/
theorem listing_requested_astray :
    listingUrl ⟨bareBase.asFolder, "k"⟩ "../status?apiKey=other" = .ok { bareBase with
        path := .rooted ["status".toList], query := some "apiKey=other&apiKey=k".toList } ∧
      ¬∀ (baseUrl apiKey wallet : String) (base u : Url) (e : Explorer),
        Url.ofString baseUrl = .ok base →
        base.scheme = "http".toList ∨ base.scheme = "https".toList →
        ofUrl baseUrl apiKey = .ok e → e.listingUrl wallet = .ok u → AsksFor base apiKey wallet u := by
  have astray : listingUrl ⟨bareBase.asFolder, "k"⟩ "../status?apiKey=other" = .ok { bareBase with
      path := .rooted ["status".toList], query := some "apiKey=other&apiKey=k".toList } := by
    decide +kernel
  refine ⟨astray, fun listed => ?_⟩
  have read : Url.ofString "http://explorer.local" = .ok bareBase := by decide +kernel
  have asks := listed _ _ _ _ _ _ read (.inl rfl) (ofUrl_of_ofString read "k") astray
  obtain ⟨q, asked, pairs⟩ := asks.query
  obtain rfl := Option.some.inj asked
  exact absurd pairs (by decide +kernel)

end Asked

end EvmWallet.Token.Explorer
