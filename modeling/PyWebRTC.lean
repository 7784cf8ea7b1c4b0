import PyWebRTC.DataBufferDelivery
import PyWebRTC.DataBufferWakeup
import PyWebRTC.DataChannelFlag
import PyWebRTC.WaitForClientReadiness
import PyWebRTC.WaitForClientResult
import PyWebRTC.DoubleRounding
import PyWebRTC.JsonText
import PyWebRTC.PicojsonDenotes
import PyWebRTC.IceCandidateArray
import PyWebRTC.IceInformation
import PyWebRTC.SessionDescriptionHandOff
import PyWebRTC.SessionDescriptionWait
import PyWebRTC.PicojsonComplete
import PyWebRTC.SignalingRoundTrip
import PyWebRTC.ReceivedText
import PyWebRTC.FailingRead
import PyWebRTC.TextChannelGaps
import PyWebRTC.Negotiation
import PyWebRTC.CandidatesSent
import PyWebRTC.SignalingOrder
import PyWebRTC.ConnectionHandles
import PyWebRTC.AddTracks
import PyWebRTC.DataBufferMailbox
import PyWebRTC.FrozenInterpreter
import PyWebRTC.PicojsonErrorLine
import PyWebRTC.CandidateRelay
import PyWebRTC.BindingText
import PyWebRTC.SignalingTimeout
import PyWebRTC.FactoryHandshake
import PyWebRTC.SessionRelay
import PyWebRTC.WaitForClientAgain
import PyWebRTC.NegotiationThreads
