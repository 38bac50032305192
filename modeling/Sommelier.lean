import Sommelier.Basic
import Sommelier.Configure
import Sommelier.Toplevel
import Sommelier.Update
import Sommelier.World
import Sommelier.Step
import Sommelier.Buffers
import Sommelier.Focus
import Sommelier.Parents
import Sommelier.Collection
import Sommelier.Acks
import Sommelier.Stall
import Sommelier.Deliveries
import Sommelier.Proposals
import Sommelier.ApplicationId
import Sommelier.Objects
import Sommelier.Roles
import Sommelier.Unmanaged
import Sommelier.Popups
import Sommelier.Serials
