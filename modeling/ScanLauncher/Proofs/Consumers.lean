import ScanLauncher.Proofs.Cli.Delivering
import ScanLauncher.Proofs.Http.Disconnect
import ScanLauncher.Proofs.Run.Spawning

namespace ScanLauncher

namespace Http

/-- A form with some values: one that is missing on either side counts as empty. -/
structure Form.Carries (form : Form) (url revision subdir : Option Text) : Prop where
  url : (((form.get? "url").getD "" : String) : Text) = url.getD ""
  revision : (((form.get? "hash").getD "" : String) : Text) = revision.getD ""
  subdir : (((form.get? "subdir").getD "" : String) : Text) = subdir.getD ""

namespace Response

end Response

end Http

end ScanLauncher
