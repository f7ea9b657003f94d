import P2pd.Wire
import P2pd.State
import P2pd.Step
import P2pd.Frame
import P2pd.Termination
import P2pd.Registry
import P2pd.Ownership
import P2pd.Outbound
import P2pd.Exchange
import P2pd.Inbound
import P2pd.Responses
import P2pd.Streams
import P2pd.World
import P2pd.RoundTrip
import P2pd.Integrity
import P2pd.Main
