import Universal7870.Lib.Run
import Universal7870.PowerHal.Profile
import Universal7870.PowerHal.Touchkeys
import Universal7870.Jpeg.StreamBounds
import Universal7870.Jpeg.StreamAcceptance
import Universal7870.Jpeg.DebugUpdate
import Universal7870.Audio.OutWrite
import Universal7870.SecRil.Client
import Universal7870.SecRil.Matching
import Universal7870.Audio.Devices
import Universal7870.Audio.Routing
import Universal7870.Audio.Hal
import Universal7870.Audio.RoutingCounts
import Universal7870.Audio.RefCounts
import Universal7870.Audio.EchoReference
import Universal7870.Audio.EchoOwnership
import Universal7870.Audio.OffloadRoute
import Universal7870.Jpeg.V4l2Format
import Universal7870.Jpeg.Decompressor
import Universal7870.SecRil.TokenPool
import Universal7870.Audio.ListedUsecases
import Universal7870.Audio.StreamTyping
import Universal7870.Audio.CommonDevice
import Universal7870.Audio.LockOrder
import Universal7870.Jpeg.ExifAttribute
import Universal7870.Jpeg.IfdWriter
import Universal7870.Jpeg.AppMarkerWriter
import Universal7870.Jpeg.AppMarkerLayout
import Universal7870.Jpeg.ExifUpdate
import Universal7870.Jpeg.HeaderLayout
import Universal7870.Jpeg.ProcessExif
import Universal7870.Jpeg.DebugReserve
import Universal7870.Jpeg.ScalerQueue
import Universal7870.Jpeg.Compressor
import Universal7870.Jpeg.CompressorQueues
import Universal7870.Jpeg.CompressorControls
import Universal7870.Jpeg.CompressorResults
import Universal7870.Jpeg.JpegEncoder
import Universal7870.Jpeg.SourceAgreement
import Universal7870.Jpeg.ThumbnailBuffers
import Universal7870.Audio.EffectList
import Universal7870.Audio.CaptureStream
import Universal7870.Audio.ProcBuffers
import Universal7870.Audio.CaptureData
import Universal7870.Audio.VoicePcms
import Universal7870.Audio.OpenStreams
import Universal7870.Audio.CallState
import Universal7870.Audio.StreamRefs
import Universal7870.Audio.UniqueUsecases
import Universal7870.Audio.DanglingStreams
import Universal7870.Jpeg.ThumbnailWorker
import Universal7870.Jpeg.FinishCompression
import Universal7870.Jpeg.FinishedImages
import Universal7870.Audio.OffloadState
import Universal7870.SecRil.HandlerTables
import Universal7870.SecRil.Messages
import Universal7870.Lib.Handles
import Universal7870.Lib.Processes
import Universal7870.Audio.OffloadThread
import Universal7870.Audio.OffloadHandle
import Universal7870.Audio.OffloadOpening
import Universal7870.Audio.ForcedStandby
import Universal7870.Audio.ActiveInput
import Universal7870.Audio.ForcedStandbyCode
import Universal7870.Audio.ForcedInput
import Universal7870.Audio.OutputCycle
import Universal7870.Audio.FailedStart
import Universal7870.SecRil.Connection
import Universal7870.SecRil.Descriptors
import Universal7870.SecRil.ClientLifetime
import Universal7870.Amplifier.Amplifier
import Universal7870.Amplifier.ClockThread
import Universal7870.Camera.Camera3Wrapper
import Universal7870.Camera.FrontFlash
import Universal7870.Camera.Metadata
import Universal7870.Camera.CaptureMetadata
import Universal7870.Camera.FrontCharacteristics
import Universal7870.Lib.Mailbox
import Universal7870.Camera.CallbackWorkerThread
import Universal7870.Camera.CallbackQueue
import Universal7870.Camera.CallbackPayloads
import Universal7870.Camera.Camera2Wrapper
import Universal7870.Jpeg.DebugOutcome
import Universal7870.Lib.StoreLog
import Universal7870.Jpeg.TracedWriter
import Universal7870.Jpeg.RejectedMetadata
import Universal7870.Lib.Tiff
import Universal7870.Jpeg.ExifRoundTrip
import Universal7870.Jpeg.IfdRoundTrip
import Universal7870.Cutils.Strdup8to16
import Universal7870.Cutils.Strdup16to8
import Universal7870.Lib.CString
import Universal7870.Camera.CameraParameters
import Universal7870.Camera.ParameterSizes
import Universal7870.Camera.CameraMetadata
import Universal7870.Camera.MetadataOwnership
import Universal7870.Camera.MetadataUpdate
import Universal7870.Jpeg.FinalLayout
import Universal7870.Jpeg.FinalStream
import Universal7870.Jpeg.FinalParse
import Universal7870.Lib.Records
import Universal7870.SecRil.Requests
import Universal7870.SecRil.RequestStream
import Universal7870.Audio.EffectChannels
import Universal7870.LiveDisplay.DisplayColorCalibration
import Universal7870.LiveDisplay.DisplayModes
import Universal7870.Audio.EchoFrames
import Universal7870.Audio.PresentationPosition
