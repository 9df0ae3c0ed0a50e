import ShadowTypes.Fault.Failure

/-!
# Consoles

What a run prints goes to a console, which writes texts in an encoding of its own. A text that holds
a code point without bytes in this encoding is not printed.
-/

namespace ShadowTypes

/-- An encoding that the ASCII characters have bytes in. -/
structure Console where
  codec : String
  /-- What is wrong with a code point that has no bytes. -/
  reason : String
  refuses : Nat → Bool
  ascii : ∀ n < 128, refuses n = false

namespace Console

def memory : Console := ⟨"", "", fun _ => false, fun _ _ => rfl⟩

def utf8 : Console where
  codec := "utf-8"
  reason := "surrogates not allowed"
  refuses := Text.isSurrogate
  ascii n h := by simp [Text.isSurrogate]; omega

/-- Why a text cannot be printed, if it cannot. -/
def refusal? (c : Console) (s : String) : Option Failure :=
  (Text.run? c.refuses c.refuses s).map fun (position, length) =>
    .unencodable s position length c.codec c.reason

/-- What stands on the console when texts have been printed in turn, each on a line of its own. -/
def print (c : Console) (lines : List String) : Except Failure String :=
  match lines.findSome? c.refusal? with
  | some x => .error x
  | none => .ok ("".intercalate (lines.map (· ++ "\n")))

end Console

end ShadowTypes
