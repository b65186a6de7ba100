import EvmWallet.Json.Decode
import EvmWallet.Json.Reader
import EvmWallet.Text.Blank
import EvmWallet.Text.Digits
import EvmWallet.Token
import EvmWallet.Token.Error

/-!
# Token listings

The answer of a token explorer: an object whose `tokens` hold one entry per token, each with
the token under `tokenInfo`. Names and symbols may be missing. The number of decimals is a
number, or a text, or missing; an entry with a text that is no such number is dropped, and
any other flaw spoils the whole listing.
-/

namespace EvmWallet.Token

/-- How an entry states its decimals. -/
inductive Decimals where
  | number (n : UInt32)
  | text (s : String)
  deriving DecidableEq, Repr

/-- An entry as it is listed. -/
structure Entry where
  address : String
  name : Option String
  symbol : Option String
  decimals : Option Decimals
  deriving DecidableEq, Repr

namespace Decimals

/-- A number of 32 bits, or a text. -/
def ofJson? : Json.Value → Option Decimals
  | .string s => s.map .text
  | v => (v.natBelow? UInt32.size).map fun n => .number (UInt32.ofNat n)

/-- The number that is stated, blanks around a text aside. -/
def value? : Decimals → Option UInt32
  | .number n => some n
  | .text s => (Text.ofDigitsBelow? UInt32.size (Text.trimChars s.toList)).map UInt32.ofNat

end Decimals

namespace Entry

/-- The content of an entry. -/
def ofInfo? (v : Json.Value) : Option Entry := do
  match ← v.record? ["address", "name", "symbol", "decimals"] with
  | [address, name, symbol, decimals] =>
    return {
      address := ← Json.required Json.Value.text? address
      name := ← Json.optional Json.Value.text? name
      symbol := ← Json.optional Json.Value.text? symbol
      decimals := ← Json.optional Decimals.ofJson? decimals }
  | _ => none

/-- An entry of a listing. -/
def ofJson? (v : Json.Value) : Option Entry := do
  match ← v.record? ["tokenInfo"] with
  | [info] => Json.required ofInfo? info
  | _ => none

/-- The token of an entry, unless its decimals are no number. Missing decimals are zero, a
missing name or symbol is empty. -/
def token? (e : Entry) : Option Token := do
  let decimals ← match e.decimals with
    | none => some 0
    | some d => d.value?
  return ⟨e.address, e.name.getD "", e.symbol.getD "", decimals⟩

end Entry

/-- The entries of a listing. -/
def entries? (v : Json.Value) : Option (List Entry) := do
  match ← v.fields? ["tokens"] 0 with
  | [none] => return []
  | [some tokens] => tokens.listOf? Entry.ofJson?
  | _ => none

/-- The tokens that the text of a listing names, in its order. -/
def ofListing (body : String) : Except Error (List Token) :=
  match (Json.parse? body).bind entries? with
  | some entries => .ok (entries.filterMap Entry.token?)
  | none => .error (.decode "address info")

end EvmWallet.Token
