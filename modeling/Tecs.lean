import Tecs.Flt
import Tecs.State
import Tecs.Speed
import Tecs.Height
import Tecs.Energy
import Tecs.Throttle
import Tecs.Pitch
import Tecs.Step
import Tecs.Frame
import Tecs.Filters
import Tecs.Airspeed
import Tecs.Divisions
import Tecs.PitchLimits
import Tecs.Descent
import Tecs.ThrottleLimits
import Tecs.SpeedLoop
import Tecs.Monotone
import Tecs.Runs
