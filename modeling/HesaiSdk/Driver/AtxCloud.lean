import HesaiSdk.Driver.Cloud
import HesaiSdk.Driver.Restricted
import HesaiSdk.UdpParser.AtxCloud

namespace HesaiSdk.Driver.Pipeline

open Library Library.Transition Lidar UdpProtocol Parsing

section Results

variable {Pt Fault : Type} {n : ℕ} [Point Pt]

end Results

end HesaiSdk.Driver.Pipeline
