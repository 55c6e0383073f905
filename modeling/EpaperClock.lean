import EpaperClock.Library.Register
import EpaperClock.Rtc
import EpaperClock.RtcRoundTrip
import EpaperClock.Sntp
import EpaperClock.Library.Gregorian
import EpaperClock.LocalTime
import EpaperClock.Library.Run
import EpaperClock.UpdateData
import EpaperClock.MainLoop
import EpaperClock.ClockPipeline
import EpaperClock.Lwip
import EpaperClock.WeatherRequest
import EpaperClock.Library.CString
import EpaperClock.WeatherParser
import EpaperClock.WeatherStrings
import EpaperClock.ControlBlocks
import EpaperClock.DnsAddresses
import EpaperClock.Freshness
import EpaperClock.Segmentation
import EpaperClock.Synchronisation
import EpaperClock.WeatherSnapshot
import EpaperClock.FieldExtraction
import EpaperClock.ReceiveWindow
import EpaperClock.MidnightRefresh
import EpaperClock.Formatting
import EpaperClock.TemperatureRounding
import EpaperClock.Library.Bitmap
import EpaperClock.Library.Canvas
import EpaperClock.Paint
import EpaperClock.Eink
import EpaperClock.FrameFidelity
import EpaperClock.Font12
import EpaperClock.ComposeFrame
import EpaperClock.Display
import EpaperClock.BusyPanel
import EpaperClock.LostFrames
import EpaperClock.FrameHistory
import EpaperClock.Rotations
import EpaperClock.ClockChanges
import EpaperClock.FramePushes
import EpaperClock.FontBounds
import EpaperClock.Library.Simulation
import EpaperClock.Library.TimerQueue
import EpaperClock.SntpActivity
import EpaperClock.SntpPacing
import EpaperClock.DnsCache
import EpaperClock.DnsResponses
import EpaperClock.PanelModes
import EpaperClock.DatagramDelivery
