import MobileGs.Mavlink.Trimming
import MobileGs.Mavlink.Trailer
import MobileGs.Mavlink.Resync
import MobileGs.Mavlink.Groups
import MobileGs.Router.Rebuild
import MobileGs.Router.Uplink
import MobileGs.Router.ClientStreams
import MobileGs.Router.Datagrams
import MobileGs.Router.UplinkFrames
import MobileGs.Router.Peers
import MobileGs.Router.Downlink
import MobileGs.Router.Descriptors
import MobileGs.Msp.Canvas
import MobileGs.Msp.Cells
import MobileGs.Msp.Soundness
import MobileGs.Msp.Restart
import MobileGs.Msp.Bursts
import MobileGs.Station.TelemetryPort
import MobileGs.Station.SharedDecoder
import MobileGs.Rtp.Loss
import MobileGs.Rtp.Fragments
import MobileGs.Rtp.Detection
import MobileGs.Wfb.Signal
import MobileGs.Wfb.Session
import MobileGs.Wfb.KeyValidation
import MobileGs.Alink.Requests
import MobileGs.Alink.FecRange
import MobileGs.Alink.Monotone
import MobileGs.Alink.Wire
import MobileGs.Link.Uplink
import MobileGs.Link.Configuration
import MobileGs.Link.Reports
import MobileGs.Link.Failures
import MobileGs.Link.Weights
import MobileGs.App.SettingsScreen
import MobileGs.App.VideoDecoder
import MobileGs.App.Recordings
import MobileGs.App.OsdOverlay
import MobileGs.App.GroundStationService
import MobileGs.Source.Datagrams
import MobileGs.Source.Stopping
import MobileGs.Source.Resources
import MobileGs.Station.Waiting
import MobileGs.Station.UplinkPath
import MobileGs.Threads.Lifetimes
import MobileGs.App.Statistics
import MobileGs.App.DecoderFailures
import MobileGs.App.DecoderCalls
