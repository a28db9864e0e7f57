import ScanLauncher.Files.Path

/-!
The variables of the environment, and the directory of the user that they name.
-/
namespace ScanLauncher

/-- The variables of an environment. -/
abbrev Environment := List (Text × Text)

namespace Environment

/-- The value of a variable. -/
def get? (env : Environment) (name : Text) : Option Text := env.lookup name

/-- The value of the variable whose name has the bytes of `name`, if it has any. -/
def find? (env : Environment) (name : Text) : Option Text :=
  name.toBytes?.bind fun bytes => env.get? (.ofBytes bytes)

/-- The user's directory as text, without slashes at its end. Where no variable names it, it is the
superuser's. -/
def homeText (env : Environment) : Text :=
  let named := (env.get? "HOME").getD "/root"
  let trimmed : Text := ⟨(named.glyphs.reverse.dropWhile (· == .char '/')).reverse⟩
  if trimmed.isEmpty then "/" else trimmed

/-- The user's directory; a name that starts with a tilde names none. -/
def home? (env : Environment) : Option Path :=
  let text := env.homeText
  if text.startsWith "~" then none else some (.ofText text)

/-- The directory that holds the user's own configuration: a variable names it, or else it lies in
the user's directory. -/
def settingsHome? (env : Environment) : Option Path :=
  match env.get? "YUGAWEB_HOME" with
  | some named =>
    if named.isEmpty then env.home?.map (· / .ofText ".yugaweb") else some (.ofText named)
  | none => env.home?.map (· / .ofText ".yugaweb")

end Environment

end ScanLauncher
